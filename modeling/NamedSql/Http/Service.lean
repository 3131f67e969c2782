import NamedSql.Http.Description
import NamedSql.Http.Form
import NamedSql.Http.Origin
import NamedSql.Http.Problem
import NamedSql.Json.Draft
import NamedSql.Operation.Registry
/-!
The web service. A listing is run by getting its resource, with the values of the query string; a
statement by posting to it, with these overlaid by the members of a JSON object in the body. A
request is checked before the store is asked anything: the route, the method, the name, the size of
the body, the operation and its kind, and then the body, in this order.
-/
namespace NamedSql

/-- A page of rows as a JSON value. -/
def Envelope.toJson (e : Envelope) : Json :=
  .object
    [("totalResults", .ofInt e.total.toInt), ("itemsPerPage", .ofInt e.page.count.toInt),
      ("startIndex", .ofInt e.page.start.toInt), ("entry", .list (e.entries.map Json.ofRecord))]

namespace Http

/-- The resources of the service. -/
inductive Route where
  | page
  | description
  | health
  | operations
  /-- An operation, by the segment of the path that names it. -/
  | operation (segment : String)
deriving DecidableEq, Repr

namespace Route

/-- The path that the names of operations are put after. -/
def operationPath : String := "/api/v1/operations/"

/-- The resource of a path. A name is one segment, and not empty. -/
def ofPath? (path : String) : Option Route :=
  if path = "/api/docs" then some page
  else if path = "/api/openapi.json" then some description
  else if path = "/api/v1/health" then some health
  else if path = "/api/v1/operations" then some operations
  else do
    let segment ← operationPath.toList.isPrefixOf? path.toList
    if segment.isEmpty ∨ '/' ∈ segment then none
    else return operation (String.ofList segment)

/-- The methods that a resource has, as they are listed to clients. -/
def methods : Route → String
  | operation _ => "GET,HEAD,POST"
  | _ => "GET,HEAD"

end Route

/-- The greatest body that is read. -/
def bodyLimit : Nat := 1048576

/-- A service: the operations it offers, on a store, to the pages of some origins. -/
structure Service (σ : Type) where
  store : Store σ
  registry : Registry
  origins : List String

namespace Service

variable {σ : Type}

/-- The service of a registry that listens on an address. -/
def ofAddress (store : Store σ) (registry : Registry) (host : String) (port : Nat) : Service σ :=
  ⟨store, registry, (Http.origins host port).filter fitsHeader⟩

/-- The name that a segment of a path encodes. -/
def decodeName (segment : String) : Except Response String :=
  match Text.Utf8.decode? (percentDecode (Text.Utf8.encode segment)) with
  | some name => .ok name
  | none => .error (.plain 400 "Invalid URL: Invalid UTF-8 in `name`")

/-- The operation of a name, if it is of the kind that is asked for. -/
def find (s : Service σ) (name : String) (kind : Operation.Kind) : Except Problem Operation :=
  match s.registry.get? name with
  | none => .error (.unknownOperation name)
  | some op => if op.kind = kind then .ok op else .error (.wrongKind op)

/-- Runs a listing. -/
def list (s : Service σ) (name query : String) : StateM σ Response :=
  match s.find name .queryAll with
  | .error problem => pure problem.response
  | .ok op => do
    match ← op.queryAll s.store (.ofPairs (Form.pairs query)) with
    | .ok envelope => return .ofJson 200 envelope.toJson
    | .error fault => return (Problem.ofFault fault).response

/-- The values of a request with a query string and a body; an empty body adds none. -/
def requestOf (query : String) (body : ByteArray) : Except Problem Request :=
  let request := Request.ofPairs (Form.pairs query)
  if body.size = 0 then .ok request
  else
    match (String.fromUTF8? body).bind Json.parse? with
    | none => .error .malformedBody
    | some (.object members) => .ok (request.overlay (.object members))
    | some _ => .error .bodyNotObject

/-- What a client is told when its statement was carried out. -/
def succeeded : Json :=
  .object [("success", .bool true), ("message", .text Operation.successMessage)]

/-- Carries out a statement. -/
def execute (s : Service σ) (name query : String) (body : ByteArray) : StateM σ Response :=
  match s.find name .execute with
  | .error problem => pure problem.response
  | .ok op =>
    match requestOf query body with
    | .error problem => pure problem.response
    | .ok request => do
      match ← op.execute s.store request with
      | .ok () => return .ofJson 200 succeeded
      | .error fault => return (Problem.ofFault fault).response

/-- Tells whether the database is there. -/
def health (s : Service σ) : StateM σ Response := do
  match ← s.store.ping with
  | .error _ => return Problem.databaseUnreachable.response
  | .ok () =>
    return .ofJson 200 (.object [("status", .text "ok"), ("version", .text About.version)])

/-- An operation in the list of all. -/
def summary (op : Operation) : Json :=
  .object [("name", .text op.name), ("kind", .text op.kind.name)]

/-- Gets a resource. -/
def get (s : Service σ) (query : String) : Route → StateM σ Response
  | .page => pure (.ofText 200 "text/html; charset=utf-8" Description.page)
  | .description => pure (.ofJson 200 Description.service.document)
  | .health => s.health
  | .operations => pure (.ofJson 200 (.list (s.registry.toList.map summary)))
  | .operation segment =>
    match decodeName segment with
    | .error response => pure response
    | .ok name => s.list name query

/-- The response to a method that a resource does not have. -/
def refused (route : Route) : Response := ⟨405, [("allow", route.methods)], ""⟩

/-- Posts to a resource. -/
def post (s : Service σ) (query : String) (body : ByteArray) (route : Route) :
    StateM σ Response :=
  match route with
  | .operation segment =>
    match decodeName segment with
    | .error response => pure response
    | .ok name =>
      if bodyLimit < body.size then
        pure (.plain 413 "Failed to buffer the request body: length limit exceeded")
      else s.execute name query body
  | _ => pure (refused route)

/-- Answers a request on a route. -/
def onRoute (s : Service σ) (m : Message) (route : Route) : StateM σ Response :=
  if m.method = "GET" then s.get m.query route
  else if m.method = "HEAD" then do return (← s.get m.query route).withoutBody
  else if m.method = "POST" then s.post m.query m.body route
  else pure (refused route)

/-- Answers a request. -/
def answer (s : Service σ) (m : Message) : StateM σ Response :=
  match Route.ofPath? m.path with
  | some route => s.onRoute m route
  | none =>
    let response := (Problem.noRoute m.method m.path).response
    pure (if m.method = "HEAD" then response.withoutBody else response)

/-- The response to a page that asks what it may send. -/
def permissions (path : String) : Response :=
  let response : Response :=
    ⟨200, [("access-control-allow-methods", "GET,POST,OPTIONS"),
      ("access-control-allow-headers", "content-type,accept,origin")], ""⟩
  match Route.ofPath? path with
  | some route => response.withHeader "allow" route.methods
  | none => response

/-- Answers a request, and lets the pages of the service's origins read the response. -/
def respond (s : Service σ) (m : Message) : StateM σ Response := do
  let response ← if m.method = "OPTIONS" then pure (permissions m.path) else s.answer m
  match m.header? "origin" with
  | none => return response
  | some origin =>
    if origin ∈ s.origins then
      return response.withHeader "access-control-allow-origin" origin
    else return response

end Service

end Http

end NamedSql
