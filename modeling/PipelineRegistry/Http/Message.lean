import PipelineRegistry.Http.Status
import PipelineRegistry.Json.Basic

/-!
# Requests and responses
-/

namespace PipelineRegistry.Http

/-! ## Requests -/

/-- What a request asks for. -/
inductive Method
  | get
  | head
  | post
  | put
  | delete
  | named (name : String)
  deriving DecidableEq, Repr

namespace Method

/-- A method by its name, which is case sensitive. -/
def ofName : String → Method
  | "GET" => get
  | "HEAD" => head
  | "POST" => post
  | "PUT" => put
  | "DELETE" => delete
  | name => named name

/-- The name of a method. -/
def name : Method → String
  | get => "GET"
  | head => "HEAD"
  | post => "POST"
  | put => "PUT"
  | delete => "DELETE"
  | named name => name

end Method

/-- Where a request is sent: a path, and a query behind a question mark. -/
structure Target where
  path : List Char
  query : List Char
  deriving DecidableEq, Repr

/-- The target of an address. What follows a number sign is not sent. -/
def Target.ofText (address : String) : Target :=
  let sent := address.toList.takeWhile (· != '#')
  { path := sent.takeWhile (· != '?')
    query := (sent.dropWhile (· != '?')).drop 1 }

/-- A request with the header that names the type of its body. -/
structure Request where
  method : Method
  target : Target
  contentType : Option String
  body : List UInt8
  deriving DecidableEq, Repr

/-! ## Responses -/

/-- What a response says. -/
inductive Content
  | empty
  | text (value : String)
  | json (value : Json)
  deriving Repr

/-- A response. -/
structure Response where
  status : Status
  content : Content
  deriving Repr

/-- The response to a request that only asks whether there would be one: the same without content.
-/
def Response.withoutContent (response : Response) : Response :=
  { response with content := .empty }

end PipelineRegistry.Http
