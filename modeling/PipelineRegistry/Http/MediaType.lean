import PipelineRegistry.Text.Blank

/-!
# Media types

The type of a request body as its header names it: a type and a subtype, which may end in a suffix,
and parameters, which must be well formed but do not matter.
-/

namespace PipelineRegistry.Http

open PipelineRegistry.Text

/-- The characters of names in a media type. -/
def isTokenChar (c : Char) : Bool :=
  '!' ≤ c && c ≤ '~' && !"\"(),/:;<=>?@[\\]\x7b\x7d".toList.contains c

/-! ## Parameters -/

/-- Where a reading of parameters stands. -/
inductive ParameterState
  | start
  | name
  | valueStart
  | value
  | quotedStart
  | quoted
  | quoteEnd
  | failed
  deriving DecidableEq, Repr

namespace ParameterState

/-- The state behind one more character. The first character between quotes may be a quote itself.
-/
def next (state : ParameterState) (c : Char) : ParameterState :=
  match state with
  | start => if c = ' ' then start else if isTokenChar c then name else failed
  | name => if isTokenChar c then name else if c = '=' then valueStart else failed
  | valueStart => if c = '"' then quotedStart else if isTokenChar c then value else failed
  | value => if isTokenChar c then value else if c = ';' then start else failed
  | quotedStart => if ' ' ≤ c && c ≤ '~' then quoted else failed
  | quoted => if c = '"' then quoteEnd else if ' ' ≤ c && c ≤ '~' then quoted else failed
  | quoteEnd => if c = ';' then start else if c = ' ' then quoteEnd else failed
  | failed => failed

/-- Parameters may end here. -/
def mayEnd : ParameterState → Bool
  | start | valueStart | value | quoteEnd => true
  | name | quotedStart | quoted | failed => false

end ParameterState

/-- What stands behind a semicolon is a list of parameters. -/
def areParameters (text : List Char) : Bool :=
  (text.foldl ParameterState.next .start).mayEnd

/-! ## Media types -/

/-- A media type. The subtype does not include the suffix. -/
structure MediaType where
  type : String
  subtype : String
  suffix : Option String
  deriving DecidableEq, Repr

namespace MediaType

/-- Splits the name of a subtype at its last plus sign, if it is not the first character. -/
def splitSuffix (name : List Char) : List Char × Option (List Char) :=
  let reversed := name.reverse
  match reversed.dropWhile (· != '+') with
  | '+' :: base :: rest =>
      ((base :: rest).reverse, some (reversed.takeWhile (· != '+')).reverse)
  | _ => (name, none)

/-- The media type that a header names, in small letters. -/
def ofText? (header : String) : Option MediaType :=
  let text := header.toList
  match text.takeWhile isTokenChar, text.dropWhile isTokenChar with
  | first :: type, '/' :: behind =>
      let name := behind.takeWhile isTokenChar
      let (subtype, suffix) := splitSuffix name
      let mediaType : MediaType :=
        { type := lower (String.ofList (first :: type))
          subtype := lower (String.ofList subtype)
          suffix := suffix.map fun chars => lower (String.ofList chars) }
      match behind.dropWhile isTokenChar with
      | [] => some mediaType
      | ';' :: parameters =>
          if !name.isEmpty && areParameters parameters then some mediaType else none
      | _ => none
  | _, _ => none

/-- Bodies of this type are JSON. -/
def isJson (mediaType : MediaType) : Bool :=
  mediaType.type = "application" &&
    (mediaType.subtype = "json" || mediaType.suffix = some "json")

end MediaType

end PipelineRegistry.Http
