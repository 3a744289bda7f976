import PipelineRegistry.Json.Token

/-!
# Reading JSON

A machine with a stack of the containers that are open reads one token at a time. It stops behind
the first complete value, or where no token fits; then the open containers are closed as they are
and marked as not ended.
-/

namespace PipelineRegistry.Json

/-! ## Open containers -/

/-- A container that is being read: an array, an object between two members, or an object behind the
key of a member. What has been read stands in reverse order. -/
inductive Frame
  | items (done : List Json)
  | members (done : List (Option String × Json))
  | member (done : List (Option String × Json)) (key : Option String)
  deriving Repr

/-- What may come next. -/
inductive Expectation
  | value
  | itemOrEnd
  | keyOrEnd
  | key
  | colon
  | separator
  deriving DecidableEq, Repr

/-- Where a token leads. -/
inductive Progress
  | more (stack : List Frame) (expectation : Expectation)
  | complete (value : Json)
  | stuck
  deriving Repr

/-- A value is complete; it goes into the innermost container. -/
def put (value : Json) : List Frame → Progress
  | [] => .complete value
  | .items done :: rest => .more (.items (value :: done) :: rest) .separator
  | .member done key :: rest => .more (.members ((key, value) :: done) :: rest) .separator
  | .members _ :: _ => .stuck

/-- The innermost array ends. -/
def endArray : List Frame → Progress
  | .items done :: rest => put (.array done.reverse true) rest
  | _ => .stuck

/-- The innermost object ends. -/
def endObject : List Frame → Progress
  | .members done :: rest => put (.object done.reverse true) rest
  | _ => .stuck

/-- The value that a string token stands for. -/
def ofText : Option String → Json
  | some value => .text value
  | none => .unreadable

/-- A token where a value starts. -/
def startValue (stack : List Frame) : Token → Progress
  | .scalar value => put value stack
  | .text value => put (ofText value) stack
  | .openBracket => .more (.items [] :: stack) .itemOrEnd
  | .openBrace => .more (.members [] :: stack) .keyOrEnd
  | _ => .stuck

/-- A token where a key starts. -/
def startMember : List Frame → Token → Progress
  | .members done :: rest, .text key => .more (.member done key :: rest) .colon
  | _, _ => .stuck

/-- A token behind a value. -/
def separate (stack : List Frame) : Token → Progress
  | .comma =>
      match stack with
      | .items _ :: _ => .more stack .value
      | .members _ :: _ => .more stack .key
      | _ => .stuck
  | .closeBracket => endArray stack
  | .closeBrace => endObject stack
  | _ => .stuck

/-- One step of the machine. -/
def advance (stack : List Frame) (expectation : Expectation) (token : Token) : Progress :=
  match expectation, token with
  | .itemOrEnd, .closeBracket => endArray stack
  | .keyOrEnd, .closeBrace => endObject stack
  | .value, token | .itemOrEnd, token => startValue stack token
  | .key, token | .keyOrEnd, token => startMember stack token
  | .colon, .colon => .more stack .value
  | .colon, _ => .stuck
  | .separator, token => separate stack token

/-- Closes the open containers where the text breaks off. `partialValue` is what was read of the
value inside the innermost one, if that had begun. -/
def breakOff (partialValue : Option Json) : List Frame → Json
  | [] => partialValue.getD .broken
  | .items done :: rest =>
      breakOff (some (.array (partialValue.toList ++ done).reverse false)) rest
  | .members done :: rest => breakOff (some (.object done.reverse false)) rest
  | .member done key :: rest =>
      breakOff (some (.object ((key, partialValue.getD .broken) :: done).reverse false)) rest

/-! ## The machine -/

/-- Runs the machine and gives the value with what is left of the text behind it. -/
def readFrom (stack : List Frame) (expectation : Expectation) (bytes : List UInt8) :
    Json × List UInt8 :=
  match _read : token? (bytes.dropWhile isBlankByte) with
  | none => (breakOff none stack, [])
  | some (token, rest) =>
      match advance stack expectation token with
      | .complete value => (value, rest)
      | .stuck => (breakOff none stack, [])
      | .more deeper next => readFrom deeper next rest
termination_by bytes.length
decreasing_by
  have shorter := token?_length _read
  have blanks := (List.dropWhile_sublist isBlankByte (l := bytes)).length_le
  omega

/-- The first value of a text and what is left behind it. -/
def read (bytes : List UInt8) : Json × List UInt8 :=
  readFrom [] .value bytes

end PipelineRegistry.Json
