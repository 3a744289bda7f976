import PipelineRegistry.Json.Basic

/-!
# JSON with sorted members

A JSON value whose members are looked up by key does not depend on their order, and of two members
with one key the last one counts. `canonical` gives the form of such a value in which every object
has each key once and in order.
-/

namespace PipelineRegistry.Json

/-- Members sorted by their keys with one more member, which replaces one that has its key. -/
def insertMember (key : String) (value : Json) :
    List (Option String × Json) → List (Option String × Json)
  | [] => [(some key, value)]
  | (other, held) :: rest =>
      match other with
      | none => insertMember key value rest
      | some name =>
          if key < name then (some key, value) :: (some name, held) :: rest
          else if key = name then (some key, value) :: rest
          else (some name, held) :: insertMember key value rest

mutual

/-- The value with the members of every object sorted and without repeated keys. -/
def canonical : Json → Json
  | .array items ended => .array (canonicalItems items) ended
  | .object members ended => .object (canonicalMembers members []) ended
  | json => json

/-- Every item in canonical form. -/
def canonicalItems : List Json → List Json
  | [] => []
  | item :: rest => canonical item :: canonicalItems rest

/-- Puts members in canonical form into those that are sorted already. -/
def canonicalMembers :
    List (Option String × Json) → List (Option String × Json) → List (Option String × Json)
  | [], sorted => sorted
  | (none, _) :: rest, sorted => canonicalMembers rest sorted
  | (some key, value) :: rest, sorted =>
      canonicalMembers rest (insertMember key (canonical value) sorted)

end

end PipelineRegistry.Json
