import PipelineRegistry.Url.Basic

/-!
# Reading addresses

An address is read from left to right: the scheme, the host if there is one, the path, the query and
the fragment. Segments of one or two dots are resolved and everything that may not stand for itself
is percent encoded, so that two texts of one address give the same value.
-/

namespace PipelineRegistry.Url

open PipelineRegistry.Text

/-! ## Cleaning -/

/-- Controls and spaces at the ends of a text are no part of the address, nor are line breaks and
tabs anywhere. -/
def clean (text : List Char) : List Char :=
  let isOutside (c : Char) : Bool := c.toNat ≤ 0x20
  ((text.dropWhile isOutside).reverse.dropWhile isOutside).reverse.filter fun c => !isDropped c

/-! ## Schemes -/

/-- An ASCII letter. -/
def isLetter (c : Char) : Bool :=
  Form.isAlphanumeric c && !Decimal.isDigit c

/-- The scheme before the first colon, and what is behind it. -/
def scheme? (text : List Char) : Option (List Char × List Char) :=
  let isSchemeChar (c : Char) : Bool :=
    Form.isAlphanumeric c || c = '+' || c = '-' || c = '.'
  let name := text.takeWhile isSchemeChar
  match name, text.dropWhile isSchemeChar with
  | first :: _, ':' :: behind =>
      if isLetter first then some (name.map lowerAscii, behind) else none
  | _, _ => none

/-! ## Queries and fragments -/

/-- The characters of a fragment that stand for themselves. -/
def keepsInFragment (c : Char) : Bool :=
  !Host.isControl c && !" \"<>`".toList.contains c

/-- The characters of a query that stand for themselves. -/
def keepsInQuery (known : Bool) (c : Char) : Bool :=
  !Host.isControl c && !" \"#<>".toList.contains c && !(known && c = '\'')

/-- What stands behind a mark, if the mark is there. -/
def behind? (mark : Char) (text : List Char) : Option (List Char) :=
  match text.dropWhile (· != mark) with
  | _ :: behind => some behind
  | [] => none

/-- The text before the query and the fragment, the query, and the fragment. -/
def splitTail (known : Bool) (text : List Char) :
    List Char × Option (List Char) × Option (List Char) :=
  let body := text.takeWhile (· != '#')
  let fragment := (behind? '#' text).map (Percent.encode keepsInFragment)
  let query := (behind? '?' body).map (Percent.encode (keepsInQuery known))
  (body.takeWhile (· != '?'), query, fragment)

/-! ## Paths -/

/-- Segments that mean one dot. -/
def isSingleDot (segment : List Char) : Bool :=
  [".", "%2e"].any (·.toList == segment.map lowerAscii)

/-- Segments that mean two dots. -/
def isDoubleDot (segment : List Char) : Bool :=
  ["..", ".%2e", "%2e.", "%2e%2e"].any (·.toList == segment.map lowerAscii)

/-- Resolves the segments of one and of two dots behind the segments that are known. A path that
ends in one of them ends in an empty segment. -/
def resolveDots (known : List (List Char)) : List (List Char) → List (List Char)
  | [] => known
  | segment :: rest =>
      let next :=
        if isDoubleDot segment then known.dropLast
        else if isSingleDot segment then known
        else known ++ [segment]
      if rest.isEmpty && (isDoubleDot segment || isSingleDot segment) then next ++ [[]]
      else resolveDots next rest

/-- The segments of a path behind its first slash. -/
def readSegments (known : Bool) (text : List Char) : List (List Char) :=
  let slashed := if known then text.map fun c => if c = '\\' then '/' else c else text
  resolveDots [] ((slashed.splitOn '/').map (Percent.encode keepsInPath))

/-- The path behind a host. Where the scheme is known it has at least one segment. -/
def readHostPath (known : Bool) (text : List Char) : Path :=
  match text with
  | [] => .segments (if known then [[]] else [])
  | c :: rest =>
      if c = '/' || (known && c = '\\') then .segments (readSegments known rest)
      else .segments (readSegments known text)

/-! ## Hosts and what belongs to them -/

/-- The characters before a host that stand for themselves. -/
def keepsInUserinfo (c : Char) : Bool :=
  keepsInPath c && !"/:;=@[\\]^|".toList.contains c

/-- The user and the password before a host. An empty password is left out with its colon. -/
def readUserinfo (text : List Char) : List Char :=
  let user := Percent.encode keepsInUserinfo (text.takeWhile (· != ':'))
  match behind? ':' text with
  | some (c :: password) => user ++ ':' :: Percent.encode keepsInUserinfo (c :: password)
  | _ => user

/-- Splits a text at the last occurrence of a mark. -/
def splitLast (mark : Char) (text : List Char) : Option (List Char) × List Char :=
  let reversed := text.reverse
  match reversed.dropWhile (· != mark) with
  | [] => (none, text)
  | _ :: before => (some before.reverse, (reversed.takeWhile (· != mark)).reverse)

/-- Splits a host from its port at the first colon outside brackets. -/
def splitPort : Bool → List Char → List Char × Option (List Char)
  | _, [] => ([], none)
  | inside, c :: rest =>
      if c = ':' && !inside then ([], some rest)
      else
        let (host, port) := splitPort (c = '[' || (inside && c != ']')) rest
        (c :: host, port)

/-- A port by its digits, of which there may be none. The usual port of the scheme is left out. -/
def readPort? (scheme : List Char) (digits : List Char) : Option (Option Nat) :=
  if digits.isEmpty then some none
  else
    (Decimal.natural? 65535 digits).map fun port =>
      let usual := knownSchemes.find? fun entry => entry.1.toList == scheme
      if usual.bind Prod.snd = some port then none else some port

/-- A host with what belongs to it and the path behind it. Where the scheme is known the host is not
empty. -/
def readAuthority? (scheme : List Char) (body : List Char) (query fragment : Option (List Char)) :
    Option Url := do
  let known := isKnown scheme
  let ends (c : Char) : Bool := c = '/' || (known && c = '\\')
  let authority := body.takeWhile fun c => !ends c
  let (userinfo?, address) := splitLast '@' authority
  let userinfo := (userinfo?.map readUserinfo).getD []
  let (hostText, portText?) := splitPort false address
  if hostText.isEmpty && (known || portText?.isSome || userinfo?.isSome) then none
  else
    let host ← if known then Host.ofText? hostText else Host.ofPlainText? hostText
    let port ← match portText? with
      | some digits => readPort? scheme digits
      | none => some none
    let path := readHostPath known (body.dropWhile fun c => !ends c)
    return ⟨scheme, userinfo, some host, port, path, query, fragment⟩

/-! ## Files -/

/-- An address of a file. Its host may be empty, and the name of the own host stands for no host. -/
def readFile? (body : List Char) (query fragment : Option (List Char)) : Option Url := do
  let slashed := body.map fun c => if c = '\\' then '/' else c
  let ofHost (host : Host) (path : Path) : Url :=
    ⟨"file".toList, [], some host, none, path, query, fragment⟩
  match slashed with
  | '/' :: '/' :: rest =>
      let hostText := rest.takeWhile (· != '/')
      let path := readHostPath true (rest.dropWhile (· != '/'))
      if hostText.isEmpty then return ofHost (.name "") path
      else
        let host ← Host.ofText? hostText
        return ofHost (if host = .name "localhost" then .name "" else host) path
  | _ => return ofHost (.name "") (readHostPath true slashed)

/-! ## Addresses -/

/-- The address that a text stands for. There is none if the text has no scheme or if its host or
its port is not valid. -/
def ofText? (text : String) : Option Url := do
  let (scheme, rest) ← scheme? (clean text.toList)
  let known := isKnown scheme
  let (body, query, fragment) := splitTail known rest
  if scheme = "file".toList then readFile? body query fragment
  else if known then
    readAuthority? scheme (body.dropWhile fun c => c = '/' || c = '\\') query fragment
  else
    match body with
    | '/' :: '/' :: behind => readAuthority? scheme behind query fragment
    | '/' :: behind =>
        return ⟨scheme, [], none, none, .segments (readSegments false behind), query, fragment⟩
    | _ =>
        let path := Percent.encode (fun c => !Host.isControl c) body
        return ⟨scheme, [], none, none, .plain path, query, fragment⟩

end PipelineRegistry.Url
