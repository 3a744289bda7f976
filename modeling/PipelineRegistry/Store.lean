import PipelineRegistry.Document
import PipelineRegistry.Version

/-!
# The store of documents

A store holds one document with a version for each pipeline. A document is replaced only by a writer
who presents the version that is stored, so that no write is lost unseen. `Store` keeps everything
in memory.
-/

namespace PipelineRegistry

/-! ## Errors -/

/-- What a statement to a database does. -/
inductive Statement
  | select
  | update
  | insert
  | delete
  | named (text : String)
  deriving DecidableEq, Repr

/-- The name of a statement. -/
def Statement.text : Statement → String
  | select => "SELECT"
  | update => "UPDATE"
  | insert => "INSERT"
  | delete => "DELETE"
  | named text => text

/-- Why a store did not do what it was asked to do. -/
inductive StoreError
  | notFound (key : PipelineKey)
  | alreadyExists (key : PipelineKey)
  | conflict (key : PipelineKey) (expected : Version)
  | connection (reason : String)
  | query (statement : Statement) (reason : String)
  | serialization (reason : String)
  | invalidVersion (version : Version)
  deriving DecidableEq, Repr

/-- The text of an error. -/
def StoreError.message : StoreError → String
  | notFound key => "pipeline " ++ key.text ++ " not found"
  | alreadyExists key => "pipeline " ++ key.text ++ " already exists"
  | conflict key expected =>
      "pipeline " ++ key.text ++ " was modified concurrently, version " ++ expected.token ++
        " is stale"
  | connection reason => "connection failed with: " ++ reason
  | query statement reason => statement.text ++ " query failed with: " ++ reason
  | serialization reason => "pipeline document could not be encoded or decoded: " ++ reason
  | invalidVersion version => version.token ++ " is not a valid version token"

/-- The counter of a token. -/
def Version.counter (version : Version) : Except StoreError Int :=
  match version.counter? with
  | some counter => .ok counter
  | none => .error (.invalidVersion version)

/-! ## Stored pipelines -/

/-- A stored document and the counter of its version. The counter is kept in 64 bits with a sign; it
needs no bound here, since it starts at one and counts the writes of one key, so that only 2 ^ 63 of
them would exceed it. -/
structure Stored where
  document : PipelineDocument
  counter : Int
  deriving DecidableEq, Repr

namespace Stored

/-- The token of the stored version. -/
def version (stored : Stored) : Version :=
  .ofCounter stored.counter

/-- A new pipeline is empty and at version one. -/
def initial : Stored :=
  ⟨{}, 1⟩

end Stored

/-- The stored pipelines by their keys, each key at most once. -/
structure Store where
  entries : List (PipelineKey × Stored) := []
  deriving DecidableEq, Repr

namespace Store

/-- What is stored under a key. -/
def find? (store : Store) (key : PipelineKey) : Option Stored :=
  store.entries.lookup key

/-- The store without a key. -/
def erase (store : Store) (key : PipelineKey) : Store :=
  ⟨store.entries.filter fun entry => entry.1 != key⟩

/-- The store with something stored under a key, instead of what was there. -/
def insert (store : Store) (key : PipelineKey) (stored : Stored) : Store :=
  ⟨(key, stored) :: (store.erase key).entries⟩

/-! ## Operations -/

/-- Reads a document with its version. -/
def get (store : Store) (key : PipelineKey) : Except StoreError (PipelineDocument × Version) :=
  match store.find? key with
  | some stored => .ok (stored.document, stored.version)
  | none => .error (.notFound key)

/-- Replaces a document if the version presented is the stored one, and counts the version up. -/
def update (store : Store) (key : PipelineKey) (document : PipelineDocument)
    (expected : Version) : Except StoreError (Store × Version) :=
  match store.find? key with
  | none => .error (.notFound key)
  | some stored =>
      if stored.version = expected then
        let next : Stored := ⟨document, stored.counter + 1⟩
        .ok (store.insert key next, next.version)
      else .error (.conflict key expected)

/-- Stores an empty document under a key that is not in use. -/
def create (store : Store) (key : PipelineKey) : Except StoreError (Store × Version) :=
  match store.find? key with
  | some _ => .error (.alreadyExists key)
  | none => .ok (store.insert key .initial, Stored.initial.version)

/-- Removes a document and forgets its version. -/
def delete (store : Store) (key : PipelineKey) : Except StoreError Store :=
  match store.find? key with
  | some _ => .ok (store.erase key)
  | none => .error (.notFound key)

/-! ## The view by keys -/

theorem find?_erase (store : Store) (erased key : PipelineKey) :
    (store.erase erased).find? key = if key = erased then none else store.find? key := by
  obtain ⟨entries⟩ := store
  simp only [find?, erase]
  induction entries with
  | nil => simp
  | cons entry rest inductionHypothesis =>
      obtain ⟨first, stored⟩ := entry
      by_cases removed : first = erased
      · subst removed
        simp only [List.filter_cons, bne_self_eq_false, Bool.false_eq_true, ↓reduceIte]
        rw [inductionHypothesis]
        by_cases same : key = first
        · simp [same]
        · have differs : (key == first) = false := by simpa using same
          simp [List.lookup_cons, differs, same]
      · have keeps : (first != erased) = true := by simpa using removed
        simp only [List.filter_cons, keeps, ↓reduceIte, List.lookup_cons]
        by_cases same : key = first
        · subst same
          simp [removed]
        · have differs : (key == first) = false := by simpa using same
          simp only [differs]
          exact inductionHypothesis

theorem find?_insert (store : Store) (inserted key : PipelineKey) (stored : Stored) :
    (store.insert inserted stored).find? key =
      if key = inserted then some stored else store.find? key := by
  by_cases same : key = inserted
  · subst same
    simp [find?, insert]
  · have differs : (key == inserted) = false := by simpa using same
    have rest := find?_erase store inserted key
    simp only [find?] at rest
    simp only [find?, insert, List.lookup_cons, differs, rest, if_neg same]

end Store

end PipelineRegistry
