import NamedSql.Json.Printer
/-!
Requests and responses of the web service. The target of a request is cut into its path and its
query; the path stays as it was written.
-/
namespace NamedSql.Http

/-- What a client asks. -/
structure Message where
  method : String
  path : String
  query : String
  headers : List (String × String)
  body : ByteArray

/-- The path and the query of a target. What follows a number sign is not for the service. -/
def Message.cutTarget (target : String) : String × String :=
  let target := target.toList.takeWhile (· != '#')
  (String.ofList (target.takeWhile (· != '?')),
    String.ofList ((target.dropWhile (· != '?')).drop 1))

/-- The request for a target. -/
def Message.ofTarget (method target : String) (headers : List (String × String))
    (body : ByteArray) : Message :=
  let (path, query) := cutTarget target
  ⟨method, path, query, headers, body⟩

/-- The first value of a header, whose name may be in any case. -/
def Message.header? (m : Message) (name : String) : Option String :=
  (m.headers.find? fun header => header.1.toList.map Char.toLower == name.toList).map Prod.snd

/-- What a client is answered. -/
structure Response where
  status : Nat
  headers : List (String × String)
  body : String
deriving DecidableEq, Repr, Inhabited

namespace Response

/-- A response with a text of the given kind. -/
def ofText (status : Nat) (contentType body : String) : Response :=
  ⟨status, [("content-type", contentType)], body⟩

/-- A response with a JSON value. -/
def ofJson (status : Nat) (body : Json) : Response :=
  ofText status "application/json" body.render

/-- A response with plain text. -/
def plain (status : Nat) (body : String) : Response :=
  ofText status "text/plain; charset=utf-8" body

/-- The response with one more header. -/
def withHeader (r : Response) (name value : String) : Response :=
  { r with headers := r.headers ++ [(name, value)] }

/-- The response without its body. -/
def withoutBody (r : Response) : Response := { r with body := "" }

/-- The value of a header. -/
def header? (r : Response) (name : String) : Option String := r.headers.lookup name

end Response

end NamedSql.Http
