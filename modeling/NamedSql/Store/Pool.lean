import NamedSql.Store
/-!
How the connections to a database are kept: how many there may and have to be, and how long each
thing may take.
-/
namespace NamedSql.Store

/-- The connections to a database. -/
structure Pool where
  backend : Backend
  /-- How many connections there may be. -/
  most : UInt32
  /-- How many connections are kept open. -/
  least : UInt32
  /-- How many seconds a call waits for a free connection. -/
  acquireTimeout : UInt64
  /-- After how many seconds a connection that is not used is closed. -/
  idleTimeout : UInt64
  /-- What is set on the server when a connection is opened. -/
  startup : Option String
deriving Repr, DecidableEq

/-- The dialect of a database system. -/
def Backend.dialect : Backend → Sql.Dialect
  | sqlite => .sqlite
  | postgres => .postgres

end NamedSql.Store
