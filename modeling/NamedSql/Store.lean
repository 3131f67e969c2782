import NamedSql.Sql.Dialect
import NamedSql.Sql.Placeholder
/-!
What the service needs of a database: to be asked whether it is there, for the number of rows of a
query, for its rows, and to carry out a statement. A store is given by its answers and by what they
do to its state; nothing else is known of it.
-/
namespace NamedSql

/-- A row: values under the names of columns. -/
abbrev Row := Record Json

namespace Store

/-- The database systems. -/
inductive Backend where
  | sqlite
  | postgres
deriving DecidableEq, Repr, Inhabited

/-- The name of a database system. -/
def Backend.name : Backend → String
  | sqlite => "sqlite"
  | postgres => "postgres"

/-- What went wrong in or on the way to a database. -/
inductive Failure where
  | poolClosed
  | poolTimedOut
  | rowNotFound
  | workerCrashed
  | connectionLost (reason : String)
  /-- The database did not accept the statement. -/
  | refused (reason : String)
  /-- A value could not be read as its type. -/
  | unreadable
  | unexpected (data : String)
  | badSetting (reason : String)
deriving DecidableEq, Repr

/-- The text of a failure. -/
def Failure.message : Failure → String
  | poolClosed => "attempted to acquire a connection on a closed pool"
  | poolTimedOut => "pool timed out while waiting for an open connection"
  | rowNotFound => "no rows returned by a query that expected to return at least one row"
  | workerCrashed => "attempted to communicate with a crashed background worker"
  | connectionLost reason => "error communicating with database: " ++ reason
  | refused reason => "error returned from database: " ++ reason
  | unreadable => "error occurred while decoding"
  | unexpected data => "encountered unexpected or invalid data: " ++ data
  | badSetting reason => "error with configuration: " ++ reason

/-- Whether the same call may succeed later. -/
def Failure.isTransient : Failure → Bool
  | poolClosed | poolTimedOut | connectionLost _ => true
  | _ => false

/-- Why a store did not answer. -/
inductive Error where
  | failed (backend : Backend) (failure : Failure)
  | config (reason : String)
  /-- A placeholder has no value. -/
  | unbound (name : String)
deriving DecidableEq, Repr

namespace Error

/-- The text of an error. -/
def message : Error → String
  | failed .sqlite failure => "SQLite error: " ++ failure.message
  | failed .postgres failure => "PostgreSQL error: " ++ failure.message
  | config reason => "Configuration error: " ++ reason
  | unbound name => "No value bound for parameter '" ++ name ++ "'"

/-- Whether the same call may succeed later. -/
def isTransient : Error → Bool
  | failed _ failure => failure.isTransient
  | _ => false

/-- The database system that an error comes from. -/
def backend? : Error → Option Backend
  | failed backend _ => some backend
  | _ => none

end Error

end Store

/-- A database with states of type `σ`. -/
structure Store (σ : Type) where
  dialect : Sql.Dialect
  ping : StateM σ (Except Store.Error Unit)
  count : String → Params → StateM σ (Except Store.Error Int64)
  rows : String → Params → StateM σ (Except Store.Error (List Row))
  /-- Answers the number of rows that a statement has changed. -/
  execute : String → Params → StateM σ (Except Store.Error UInt64)

/-- Expands the placeholders of a statement as the dialect writes them. -/
def Sql.Dialect.expand (d : Sql.Dialect) (sql : String) (params : Params) :
    Except Store.Error Sql.Expansion :=
  match Sql.expand sql params fun number _ => d.placeholder number with
  | .ok expansion => .ok expansion
  | .error unbound => .error (.unbound unbound.name)

end NamedSql
