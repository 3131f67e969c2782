import NamedSql.Http.Message
import NamedSql.Operation.Run
/-!
What goes wrong with a request, and how the client is told. What a store says is never passed on; a
client learns that an operation is miswritten, that its statement failed, or that the database
failed.
-/
namespace NamedSql.Http

/-- Why a request is not answered as asked. -/
inductive Problem where
  | noRoute (method path : String)
  | unknownOperation (name : String)
  | wrongKind (op : Operation)
  /-- The body is no JSON text. -/
  | malformedBody
  | bodyNotObject
  | statementFailed (message : String)
  | misconfigured (message : String)
  | databaseFailed
  | databaseUnreachable

namespace Problem

/-- The problem of a fault. -/
def ofFault (fault : Fault) : Problem :=
  if fault.isConfiguration then misconfigured fault.message
  else match fault with
    | .statementFailed _ => statementFailed fault.message
    | _ => databaseFailed

/-- The status of the response. -/
def status : Problem → Nat
  | malformedBody | bodyNotObject | statementFailed _ => 400
  | noRoute .. | unknownOperation _ => 404
  | wrongKind _ => 405
  | misconfigured _ | databaseFailed => 500
  | databaseUnreachable => 503

/-- The kind of a problem, which its status tells. -/
def kind (p : Problem) : String :=
  match p.status with
  | 400 => "bad_request"
  | 404 => "not_found"
  | 405 => "method_not_allowed"
  | 503 => "service_unavailable"
  | _ => "internal_error"

/-- The code of a problem. -/
def code : Problem → String
  | noRoute .. => "ROUTE_NOT_FOUND"
  | unknownOperation _ => "OPERATION_NOT_FOUND"
  | wrongKind _ => "WRONG_OPERATION_KIND"
  | malformedBody | bodyNotObject => "INVALID_BODY"
  | statementFailed _ => "STATEMENT_FAILED"
  | misconfigured _ => "OPERATION_MISCONFIGURED"
  | databaseFailed => "INTERNAL"
  | databaseUnreachable => "SERVICE_UNAVAILABLE"

/-- What the client is told. Of a body that is no JSON text, the message is constant here: what the reader
itself says of it, the fault and its line and column, is left out. -/
def message : Problem → String
  | noRoute method path => "No route for " ++ method ++ " " ++ path
  | unknownOperation name => "Unknown operation '" ++ name ++ "'"
  | wrongKind op => "Operation '" ++ op.name ++ "' is a " ++ op.kind.name ++ " operation"
  | malformedBody => "Invalid JSON: malformed text"
  | bodyNotObject => "Request body must be a JSON object"
  | statementFailed message => message
  | misconfigured message => message
  | databaseFailed => "Database operation failed"
  | databaseUnreachable => "Database unreachable"

/-- The response that reports a problem. -/
def response (p : Problem) : Response :=
  .ofJson p.status (.object
    [("error", .text p.kind), ("code", .text p.code), ("message", .text p.message)])

end Problem

end NamedSql.Http
