import PipelineRegistry.ColumnPath.JsonPath.Lexeme

/-!
# JSONPath queries

Ordered alternatives over the characters of a text. A rule accepts, or it declines, so that the next
alternative is tried, or it refuses the whole text. Comparisons turn a refusal of an operand into a
decline. Functions are checked for their names and for the types of their arguments.
-/

namespace PipelineRegistry.ColumnPath.JsonPath

/-! ## Answers of rules -/

/-- What a rule makes of the text in front of it. What is left is never longer than the input. -/
inductive Parse (α : Type) (input : List Char)
  | accepted (value : α) (rest : List Char) (bound : rest.length ≤ input.length)
  | declined
  | refused

namespace Parse

variable {α β : Type} {input : List Char}

/-- The answer of a rule that started behind some characters that were used up before. -/
def widen {inner : List Char} (shorter : inner.length ≤ input.length) :
    Parse α inner → Parse α input
  | accepted value rest bound => accepted value rest (Nat.le_trans bound shorter)
  | declined => declined
  | refused => refused

/-- Changes the value of an accepted text. -/
def map (f : α → β) : Parse α input → Parse β input
  | accepted value rest bound => accepted (f value) rest bound
  | declined => declined
  | refused => refused

/-- Goes on behind an accepted text. -/
def andThen (first : Parse α input)
    (next : (value : α) → (rest : List Char) → rest.length ≤ input.length → Parse β input) :
    Parse β input :=
  match first with
  | accepted value rest bound => next value rest bound
  | declined => declined
  | refused => refused

/-- Tries another alternative if the first one declines. -/
def orElse (first : Parse α input) (second : Unit → Parse α input) : Parse α input :=
  match first with
  | declined => second ()
  | other => other

/-- Turns a refusal into a decline. -/
def forgive : Parse α input → Parse α input
  | refused => declined
  | other => other

/-- Turns a decline into a refusal. -/
def insist : Parse α input → Parse α input
  | declined => refused
  | other => other

/-- The answer of a rule that knows only what is left. -/
def ofOption (value : α) : Option (List Char) → Parse α input
  | some rest => if bound : rest.length ≤ input.length then accepted value rest bound else declined
  | none => declined

/-- The answer of a rule for a lexeme that may be broken. -/
def ofQuotation (value : α) : Quotation → Parse α input
  | .absent => declined
  | .closed rest => ofOption value (some rest)
  | .broken => refused

/-- A given character, with blanks allowed before it. -/
def closing (c : Char) (value : α) (text : List Char) (bound : text.length ≤ input.length) :
    Parse α input :=
  match skipBlanks text, length_skipBlanks_le text with
  | first :: rest, shorter =>
      if first = c then
        accepted value rest (by simp only [List.length_cons] at shorter; omega)
      else declined
  | [], _ => declined

end Parse

/-! ## Separators -/

/-- What is left of a text when at least one character of it was taken. -/
abbrev Shorter (input : List Char) : Type :=
  { rest : List Char // rest.length < input.length }

/-- What is left behind a comma. Blanks before and behind it are left out. -/
def behindComma? (input : List Char) : Option (Shorter input) :=
  match skipBlanks input, length_skipBlanks_le input with
  | ',' :: rest, bound =>
      some ⟨skipBlanks rest, Nat.lt_of_le_of_lt (length_skipBlanks_le rest) bound⟩
  | _, _ => none

/-- What is left behind a character that is written twice. Blanks before and behind it are left
out. -/
def behindDoubled? (c : Char) (input : List Char) : Option (Shorter input) :=
  match skipBlanks input, length_skipBlanks_le input with
  | first :: second :: rest, bound =>
      if first = c && second = c then
        some ⟨skipBlanks rest,
          Nat.lt_of_le_of_lt (Nat.le_succ_of_le (length_skipBlanks_le rest)) bound⟩
      else none
  | _, _ => none

/-! ## Function types -/

/-- What an argument of a function is. -/
inductive Argument
  | literal
  | singular
  | nodes
  | value
  | logical
  deriving DecidableEq, Repr

/-- What a parameter of a function takes: one value, or the nodes of a query. -/
inductive Parameter
  | value
  | nodes
  deriving DecidableEq, Repr

/-- A value comes from a literal, a singular query or a function; nodes come from any query. -/
def Parameter.takes : Parameter → Argument → Bool
  | .value, .literal | .value, .singular | .value, .value => true
  | .nodes, .singular | .nodes, .nodes => true
  | _, _ => false

/-- The parameters and the kind of result of a function. -/
structure Signature where
  parameters : List Parameter
  result : Argument
  deriving DecidableEq, Repr

/-- The functions that there are. -/
def signature? : String → Option Signature
  | "length" => some ⟨[.value], .value⟩
  | "count" => some ⟨[.nodes], .value⟩
  | "value" => some ⟨[.nodes], .value⟩
  | "match" => some ⟨[.value, .value], .logical⟩
  | "search" => some ⟨[.value, .value], .logical⟩
  | _ => none

/-- The arguments fit the parameters one to one. -/
def fits : List Parameter → List Argument → Bool
  | [], [] => true
  | parameter :: parameters, argument :: arguments =>
      parameter.takes argument && fits parameters arguments
  | _, _ => false

/-! ## Rules -/

mutual

/-- Any number of segments. The value tells whether each of them names at most one node. -/
def segments (input : List Char) : Parse Bool input :=
  match segment input with
  | .refused => .refused
  | .declined => .accepted true input (Nat.le_refl _)
  | .accepted single rest bound =>
      if rest.length < input.length then
        ((segments rest).map (single && ·)).widen bound
      else .accepted single rest bound
termination_by input.length * 32 + 20

/-- One segment: two dots take all descendants, otherwise blanks may stand before it. -/
def segment (input : List Char) : Parse Bool input :=
  match input with
  | '.' :: '.' :: rest => (descendants rest).widen (by simp only [List.length_cons]; omega)
  | text =>
      have shorter := length_skipBlanks_le text
      (child (skipBlanks text)).widen shorter
termination_by input.length * 32 + 19
decreasing_by
  all_goals try simp only [List.length_cons] at *
  all_goals omega

/-- What may stand behind two dots. -/
def descendants (input : List Char) : Parse Bool input :=
  match input with
  | '*' :: rest => .accepted false rest (by simp)
  | text =>
      ((bracket text).map fun _ => false).orElse fun _ =>
        (Parse.ofOption false (afterName? text)).insist
termination_by input.length * 32 + 18

/-- A segment for the children of a node. -/
def child (input : List Char) : Parse Bool input :=
  match input with
  | '.' :: '*' :: rest => .accepted false rest (by simp only [List.length_cons]; omega)
  | '.' :: rest =>
      (Parse.ofOption true (afterName? rest) : Parse Bool rest).insist.widen (by simp)
  | text => bracket text
termination_by input.length * 32 + 18

/-- Selectors in brackets. A single name or index names at most one node. -/
def bracket (input : List Char) : Parse Bool input :=
  match input with
  | '[' :: rest =>
      have shorter := length_skipBlanks_le rest
      (selector (skipBlanks rest)).widen (by simp only [List.length_cons]; omega)
        |>.andThen fun single behind bound =>
          (furtherSelectors single behind).widen bound |>.andThen fun single last inner =>
            (Parse.closing ']' single last inner).insist
  | _ => .declined
termination_by input.length * 32 + 17
decreasing_by
  · simp only [List.length_cons]; omega
  · simp only [List.length_cons] at *; omega

/-- The selectors after the first. A comma that no selector follows is left over. -/
def furtherSelectors (single : Bool) (input : List Char) : Parse Bool input :=
  match behindComma? input with
  | none => .accepted single input (Nat.le_refl _)
  | some ⟨rest, shorter⟩ =>
      match selector rest with
      | .refused => .refused
      | .declined => .accepted single input (Nat.le_refl _)
      | .accepted _ behind inner =>
          (furtherSelectors false behind).widen (Nat.le_trans inner (Nat.le_of_lt shorter))
termination_by input.length * 32 + 16

/-- One selector: a star, a name, a slice, an index or a filter. -/
def selector (input : List Char) : Parse Bool input :=
  match input with
  | '*' :: rest => .accepted false rest (by simp)
  | '?' :: rest =>
      ((anyOf (skipBlanks rest)).map fun _ => false).widen
        (Nat.le_succ_of_le (length_skipBlanks_le rest))
  | text =>
      (Parse.ofQuotation true (quotation text)).orElse fun _ =>
        (Parse.ofOption false (afterSlice? text)).orElse fun _ =>
          Parse.ofOption true (afterInteger? text)
termination_by input.length * 32 + 15
decreasing_by
  have shorter := length_skipBlanks_le rest
  simp only [List.length_cons]; omega

/-- Conditions of which one must hold. -/
def anyOf (input : List Char) : Parse Unit input :=
  (allOf input).andThen fun _ rest bound => (furtherAnyOf rest).widen bound
termination_by input.length * 32 + 14

/-- The conditions after the first double bar. -/
def furtherAnyOf (input : List Char) : Parse Unit input :=
  match behindDoubled? '|' input with
  | none => .accepted () input (Nat.le_refl _)
  | some ⟨rest, shorter⟩ =>
      match allOf rest with
      | .refused => .refused
      | .declined => .accepted () input (Nat.le_refl _)
      | .accepted _ behind inner =>
          (furtherAnyOf behind).widen (Nat.le_trans inner (Nat.le_of_lt shorter))
termination_by input.length * 32 + 13

/-- Conditions that must all hold. -/
def allOf (input : List Char) : Parse Unit input :=
  (condition input).andThen fun _ rest bound => (furtherAllOf rest).widen bound
termination_by input.length * 32 + 12

/-- The conditions after the first double ampersand. -/
def furtherAllOf (input : List Char) : Parse Unit input :=
  match behindDoubled? '&' input with
  | none => .accepted () input (Nat.le_refl _)
  | some ⟨rest, shorter⟩ =>
      match condition rest with
      | .refused => .refused
      | .declined => .accepted () input (Nat.le_refl _)
      | .accepted _ behind inner =>
          (furtherAllOf behind).widen (Nat.le_trans inner (Nat.le_of_lt shorter))
termination_by input.length * 32 + 11

/-- A single condition. Only a comparison cannot be negated without parentheses. -/
def condition (input : List Char) : Parse Unit input :=
  match input with
  | '!' :: rest =>
      have shorter := length_skipBlanks_le rest
      ((group (skipBlanks rest)).orElse fun _ =>
        ((query (skipBlanks rest)).map fun _ => ()).orElse fun _ =>
          logicalCall (skipBlanks rest)).widen (by simp only [List.length_cons]; omega)
  | text =>
      (group text).orElse fun _ =>
        (comparison text).orElse fun _ =>
          ((query text).map fun _ => ()).orElse fun _ => logicalCall text
termination_by input.length * 32 + 10
decreasing_by
  all_goals try simp only [List.length_cons] at *
  all_goals omega

/-- Conditions in parentheses. -/
def group (input : List Char) : Parse Unit input :=
  match input with
  | '(' :: rest =>
      (anyOf (skipBlanks rest)).widen (Nat.le_succ_of_le (length_skipBlanks_le rest))
        |>.andThen fun _ behind bound => Parse.closing ')' () behind bound
  | _ => .declined
termination_by input.length * 32 + 9
decreasing_by
  have shorter := length_skipBlanks_le rest
  simp only [List.length_cons]; omega

/-- Two operands with an operator between them. -/
def comparison (input : List Char) : Parse Unit input :=
  (operand input).andThen fun _ rest _ =>
    match afterComparison? (skipBlanks rest) with
    | none => .declined
    | some behind =>
        if shorter : behind.length < input.length then
          (operand (skipBlanks behind)).widen
            (Nat.le_trans (length_skipBlanks_le behind) (Nat.le_of_lt shorter))
        else .declined
termination_by input.length * 32 + 8
decreasing_by
  · omega
  · have shorterStill := length_skipBlanks_le behind; omega

/-- An operand of a comparison: a literal, a singular query, or a function that gives a value. -/
def operand (input : List Char) : Parse Unit input :=
  ((Parse.ofQuotation () (literal input)).orElse fun _ =>
    (Parse.ofOption () (afterSingularQuery? input)).orElse fun _ =>
      (call input).andThen fun result rest bound =>
        if result = .value then .accepted () rest bound else .declined).forgive
termination_by input.length * 32 + 7

/-- A query from the root or the current node. -/
def query (input : List Char) : Parse Bool input :=
  match input with
  | '$' :: rest | '@' :: rest => (segments rest).widen (by simp)
  | _ => .declined
termination_by input.length * 32 + 6

/-- A function as a condition must give a truth value. -/
def logicalCall (input : List Char) : Parse Unit input :=
  (call input).andThen fun result rest bound =>
    if result = .logical then .accepted () rest bound else .refused
termination_by input.length * 32 + 6

/-- A function call. Behind the opening parenthesis everything must be right. -/
def call (input : List Char) : Parse Argument input :=
  match functionName? input with
  | none => .declined
  | some (name, rest) =>
      if shorter : rest.length < input.length then
        match argumentList (skipBlanks rest) with
        | .accepted given behind bound =>
            match signature? name with
            | none => .refused
            | some signature =>
                if fits signature.parameters given then
                  (Parse.closing ')' signature.result behind
                    (by have blanks := length_skipBlanks_le rest; omega)).insist
                else .refused
        | _ => .refused
      else .declined
termination_by input.length * 32 + 5
decreasing_by
  have blanks := length_skipBlanks_le rest
  omega

/-- The arguments of a function; there may be none. -/
def argumentList (input : List Char) : Parse (List Argument) input :=
  match argument input with
  | .refused => .refused
  | .declined => .accepted [] input (Nat.le_refl _)
  | .accepted first rest bound => ((furtherArguments rest).map (first :: ·)).widen bound
termination_by input.length * 32 + 8

/-- The arguments after the first. A comma that no argument follows is left over. -/
def furtherArguments (input : List Char) : Parse (List Argument) input :=
  match behindComma? input with
  | none => .accepted [] input (Nat.le_refl _)
  | some ⟨rest, shorter⟩ =>
      match argument rest with
      | .refused => .refused
      | .declined => .accepted [] input (Nat.le_refl _)
      | .accepted next behind inner =>
          ((furtherArguments behind).map (next :: ·)).widen (Nat.le_trans inner (Nat.le_of_lt shorter))
termination_by input.length * 32 + 7

/-- An argument: a literal, a query or a function call. -/
def argument (input : List Char) : Parse Argument input :=
  (Parse.ofQuotation Argument.literal (literal input)).orElse fun _ =>
    ((query input).map fun single => if single then Argument.singular else .nodes).orElse fun _ =>
      call input
termination_by input.length * 32 + 7

end

/-! ## Whole texts -/

/-- A text is a query when it is a dollar sign and segments and nothing else. -/
def isQuery (text : List Char) : Bool :=
  match text with
  | '$' :: rest =>
      match segments rest with
      | .accepted _ [] _ => true
      | _ => false
  | _ => false

end PipelineRegistry.ColumnPath.JsonPath
