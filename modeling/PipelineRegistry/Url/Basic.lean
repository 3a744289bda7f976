import PipelineRegistry.Text.Form
import PipelineRegistry.Url.Host

/-!
# Addresses of services

An address names a scheme, for many schemes a host, and a path, and it may have a query and a
fragment. Its parts are kept in the encoded form in which they are written. Segments and pairs can
be added to an address; they are encoded on the way.
-/

namespace PipelineRegistry

open PipelineRegistry.Text

namespace Url

/-- A path is a list of segments, or for some schemes a text without structure. -/
inductive Path
  | segments (list : List (List Char))
  | plain (text : List Char)
  deriving DecidableEq, Repr

/-- A path as it is written. -/
def Path.chars : Path → List Char
  | segments list => list.flatMap ('/' :: ·)
  | plain text => text

/-- The schemes that are known, with the ports that they use unless told otherwise. -/
def knownSchemes : List (String × Option Nat) :=
  [("http", some 80), ("https", some 443), ("ws", some 80), ("wss", some 443), ("ftp", some 21),
    ("file", none)]

/-- A scheme is known. -/
def isKnown (scheme : List Char) : Bool :=
  knownSchemes.any (·.1.toList == scheme)

end Url

/-- An address. The part before the host may hold a user and a password. -/
structure Url where
  scheme : List Char
  userinfo : List Char
  host : Option Url.Host
  port : Option Nat
  path : Url.Path
  query : Option (List Char)
  fragment : Option (List Char)
  deriving DecidableEq, Repr

namespace Url

/-! ## Text -/

/-- The host of an address with what belongs to it. Without a host, a path that starts with two
slashes is kept apart from the scheme by a dot. -/
def authorityChars (url : Url) : List Char :=
  match url.host with
  | some host =>
      ['/', '/'] ++ (if url.userinfo.isEmpty then [] else url.userinfo ++ ['@']) ++
        host.text.toList ++
        match url.port with
        | some port => ':' :: Decimal.digits port
        | none => []
  | none =>
      match url.path with
      | .segments ([] :: _ :: _) => ['/', '.']
      | _ => []

/-- A part behind its mark, if there is one. -/
def marked (mark : Char) : Option (List Char) → List Char
  | some part => mark :: part
  | none => []

/-- What is sent to the host: the path and the query. -/
def target (url : Url) : String :=
  String.ofList (url.path.chars ++ marked '?' url.query)

/-- An address as text. -/
def text (url : Url) : String :=
  String.ofList <|
    url.scheme ++ ':' :: url.authorityChars ++ url.path.chars ++ marked '?' url.query ++
      marked '#' url.fragment

/-! ## More segments -/

/-- The characters of a path that stand for themselves. -/
def keepsInPath (c : Char) : Bool :=
  !Host.isControl c && !" \"<>`#?\x7b\x7d".toList.contains c

/-- The characters of a segment that stand for themselves. A backslash separates segments where the
scheme is known, so it is encoded there. -/
def keepsInSegment (known : Bool) (c : Char) : Bool :=
  keepsInPath c && c ≠ '/' && c ≠ '%' && !(known && c = '\\')

/-- Line breaks and tabs are never part of an address. -/
def isDropped (c : Char) : Bool :=
  c = '\t' || c = '\n' || c = '\r'

/-- A list of segments without one empty segment at its end. -/
def withoutTrailingEmpty (segments : List (List Char)) : List (List Char) :=
  match segments.getLast? with
  | some [] => if segments.length = 1 then segments else segments.dropLast
  | _ => segments

/-- A list of segments with one more, which is encoded already. A single empty segment is a path
that has none yet. One dot means no segment and two dots take the last one away. -/
def pushSegment (segments : List (List Char)) (segment : List Char) : List (List Char) :=
  let before := if segments = [[]] then [] else segments
  if segment = ['.', '.'] then before.dropLast ++ [[]]
  else if segment = ['.'] then before ++ [[]]
  else before ++ [segment]

/-- A list of segments with one more. Segments that are one or two dots are left out. -/
def appendSegment (known : Bool) (segments : List (List Char)) (segment : String) :
    List (List Char) :=
  if segment = "." || segment = ".." then segments
  else
    pushSegment segments
      (Percent.encode (keepsInSegment known) (segment.toList.filter fun c => !isDropped c))

/-- An address with more segments behind its path. A path without structure takes none. -/
def extend? (url : Url) (more : List String) : Option Url :=
  match url.path with
  | .plain _ => none
  | .segments list =>
      let start := withoutTrailingEmpty list
      some { url with path := .segments (more.foldl (appendSegment (isKnown url.scheme)) start) }

/-! ## More pairs -/

/-- An address with one more pair in its query. -/
def appendPair (url : Url) (key value : String) : Url :=
  let pair := Form.encodePair key.toList value.toList
  let query := match url.query with
    | some present => if present.isEmpty then pair else present ++ '&' :: pair
    | none => pair
  { url with query := some query }

end Url

end PipelineRegistry
