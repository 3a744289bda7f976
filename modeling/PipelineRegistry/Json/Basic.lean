import PipelineRegistry.Binary64

/-!
# JSON values as they are read

A reading of JSON text keeps what was understood up to the point where the text stops being JSON.
There stands `broken`, or a container that has not ended. A token that is well formed but that no
value can hold, such as half of a surrogate pair, is `unreadable`: it may be skipped but not kept.
Values that are made by a program hold none of these; they are `complete`.
-/

namespace PipelineRegistry

/-- A JSON value, or as much of it as could be read. Object members keep their order, and a member
without a key has a key that no text can hold. -/
inductive Json
  | null
  | boolean (value : Bool)
  | integer (value : Int)
  | float (value : Binary64)
  | text (value : String)
  | array (items : List Json) (ended : Bool)
  | object (members : List (Option String × Json)) (ended : Bool)
  | unreadable
  | broken
  deriving Repr

namespace Json

/-- An array with all its items. -/
def list (items : List Json) : Json :=
  .array items true

/-- An object with all its members. -/
def record (members : List (String × Json)) : Json :=
  .object (members.map fun (key, value) => (some key, value)) true

/-! ## Skipping and keeping -/

mutual

/-- A value may be skipped when its text is well formed to its end. -/
def isSkippable : Json → Bool
  | .broken => false
  | .array items ended => ended && areSkippable items
  | .object members ended => ended && areSkippableMembers members
  | _ => true

/-- Every item may be skipped. -/
def areSkippable : List Json → Bool
  | [] => true
  | item :: rest => isSkippable item && areSkippable rest

/-- The value of every member may be skipped; its key may be anything. -/
def areSkippableMembers : List (Option String × Json) → Bool
  | [] => true
  | (_, value) :: rest => isSkippable value && areSkippableMembers rest

end

mutual

/-- A value may be kept when all its tokens are readable and it is nested no deeper than the given
number of containers. -/
def isKeepable (depth : Nat) : Json → Bool
  | .broken | .unreadable => false
  | .array items ended =>
      match depth with
      | 0 => false
      | inner + 1 => ended && areKeepable inner items
  | .object members ended =>
      match depth with
      | 0 => false
      | inner + 1 => ended && areKeepableMembers inner members
  | _ => true

/-- Every item may be kept. -/
def areKeepable (depth : Nat) : List Json → Bool
  | [] => true
  | item :: rest => isKeepable depth item && areKeepable depth rest

/-- The key and the value of every member may be kept. -/
def areKeepableMembers (depth : Nat) : List (Option String × Json) → Bool
  | [] => true
  | (key, value) :: rest => key.isSome && isKeepable depth value && areKeepableMembers depth rest

end

/-- How deep the containers of a kept value may be nested. -/
def depthLimit : Nat := 127

end Json

end PipelineRegistry
