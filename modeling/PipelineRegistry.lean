import PipelineRegistry.Binary64
import PipelineRegistry.Call
import PipelineRegistry.Client
import PipelineRegistry.ColumnPath
import PipelineRegistry.ColumnPath.JsonPath.Grammar
import PipelineRegistry.ColumnPath.JsonPath.Lexeme
import PipelineRegistry.ColumnPath.XPath.Grammar
import PipelineRegistry.ColumnPath.XPath.Token
import PipelineRegistry.Counter
import PipelineRegistry.Document
import PipelineRegistry.Document.Json
import PipelineRegistry.Duration
import PipelineRegistry.Entity
import PipelineRegistry.Entity.Json
import PipelineRegistry.Http.Handler
import PipelineRegistry.Http.MediaType
import PipelineRegistry.Http.Message
import PipelineRegistry.Http.Refusal
import PipelineRegistry.Http.Route
import PipelineRegistry.Http.Status
import PipelineRegistry.Identifier
import PipelineRegistry.Json.Basic
import PipelineRegistry.Json.Canonical
import PipelineRegistry.Json.Decode
import PipelineRegistry.Json.Printer
import PipelineRegistry.Json.Problem
import PipelineRegistry.Json.Reader
import PipelineRegistry.Json.Token
import PipelineRegistry.Proofs.Accounts
import PipelineRegistry.Proofs.Addresses
import PipelineRegistry.Proofs.AttemptBudget
import PipelineRegistry.Proofs.AttemptHistory
import PipelineRegistry.Proofs.Backoff
import PipelineRegistry.Proofs.Cancellation
import PipelineRegistry.Proofs.Changes
import PipelineRegistry.Proofs.Command
import PipelineRegistry.Proofs.Commits
import PipelineRegistry.Proofs.ConcurrentCreations
import PipelineRegistry.Proofs.Contention
import PipelineRegistry.Proofs.Courses
import PipelineRegistry.Proofs.Creations
import PipelineRegistry.Proofs.Decoding
import PipelineRegistry.Proofs.Deletions
import PipelineRegistry.Proofs.DocumentIds
import PipelineRegistry.Proofs.Edit
import PipelineRegistry.Proofs.EditHistory
import PipelineRegistry.Proofs.EncodedTexts
import PipelineRegistry.Proofs.Entries
import PipelineRegistry.Proofs.Formats
import PipelineRegistry.Proofs.FreshIds
import PipelineRegistry.Proofs.History
import PipelineRegistry.Proofs.Invariants
import PipelineRegistry.Proofs.Isolation
import PipelineRegistry.Proofs.Linearization
import PipelineRegistry.Proofs.Lossless
import PipelineRegistry.Proofs.Meaning
import PipelineRegistry.Proofs.Notices
import PipelineRegistry.Proofs.OrderedMaps
import PipelineRegistry.Proofs.Ordinals
import PipelineRegistry.Proofs.Outcomes
import PipelineRegistry.Proofs.Passes
import PipelineRegistry.Proofs.PrintedTokens
import PipelineRegistry.Proofs.PrintedValues
import PipelineRegistry.Proofs.Progress
import PipelineRegistry.Proofs.Quiescence
import PipelineRegistry.Proofs.Rejections
import PipelineRegistry.Proofs.Removals
import PipelineRegistry.Proofs.RuleChecks
import PipelineRegistry.Proofs.RuleValidity
import PipelineRegistry.Proofs.Run
import PipelineRegistry.Proofs.SchemeText
import PipelineRegistry.Proofs.Serving
import PipelineRegistry.Proofs.Snapshots
import PipelineRegistry.Proofs.Statuses
import PipelineRegistry.Proofs.StoreLaws
import PipelineRegistry.Proofs.StoredShapes
import PipelineRegistry.Proofs.Tallies
import PipelineRegistry.Proofs.TokenReuse
import PipelineRegistry.Proofs.Uniqueness
import PipelineRegistry.Proofs.Variations
import PipelineRegistry.Proofs.VersionTokens
import PipelineRegistry.Proofs.WellFormed
import PipelineRegistry.Proofs.WordArithmetic
import PipelineRegistry.Proofs.WordNumerals
import PipelineRegistry.Registry.Error
import PipelineRegistry.Registry.Extensions
import PipelineRegistry.Registry.Functions
import PipelineRegistry.Registry.Mutation
import PipelineRegistry.Registry.Notice
import PipelineRegistry.Registry.Pipelines
import PipelineRegistry.Registry.Program
import PipelineRegistry.Registry.Rules
import PipelineRegistry.Registry.Sources
import PipelineRegistry.RetryPolicy
import PipelineRegistry.Scheme
import PipelineRegistry.Service
import PipelineRegistry.Settings
import PipelineRegistry.Simulation.Clock
import PipelineRegistry.Simulation.Script
import PipelineRegistry.Simulation.World
import PipelineRegistry.Store
import PipelineRegistry.Text.Blank
import PipelineRegistry.Text.Decimal
import PipelineRegistry.Text.Form
import PipelineRegistry.Text.Hex
import PipelineRegistry.Text.Percent
import PipelineRegistry.Text.Printable
import PipelineRegistry.Text.Quoted
import PipelineRegistry.Url.Basic
import PipelineRegistry.Url.Host
import PipelineRegistry.Url.Punycode
import PipelineRegistry.Url.Reader
import PipelineRegistry.Version
