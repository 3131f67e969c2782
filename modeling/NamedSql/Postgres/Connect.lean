import NamedSql.Config.Settings
import NamedSql.Postgres.Url
import NamedSql.Store.Pool
/-!
Opening connections to PostgreSQL servers. Every connection asks its server to give up on statements
that take too long. A server that does not answer is tried again until the time for it is over.
-/
namespace NamedSql.Postgres

/-- After how many seconds a connection that is not used is closed. -/
def idleTimeout : UInt64 := 600

/-- How many seconds a statement may take if no time is set. -/
def defaultStatementTimeout : UInt64 := 30

/-- How many seconds a statement may take. -/
def statementTimeout (d : Config.Database) : UInt64 :=
  if 0 < d.statementTimeout then d.statementTimeout else defaultStatementTimeout

/-- The connections that settings ask for. -/
def poolOf (d : Config.Database) : Store.Pool where
  backend := .postgres
  most := d.effectiveMaxConnections
  least := min d.minConnections d.effectiveMaxConnections
  acquireTimeout := d.effectiveAcquireTimeout
  idleTimeout := idleTimeout
  startup := some ("-c statement_timeout=" ++ toString (statementTimeout d).toNat ++ "s")

/-- Opens connections to the server of some settings, where `reaches` tells whether a server
answers. -/
def connect {m : Type → Type} [Monad m] (reaches : Address → m Bool) (d : Config.Database) :
    m (Except Store.Error Store.Pool) := do
  if d.url.isEmpty then return .error (.config "PostgreSQL URL is required")
  match Address.ofUrl d.url with
  | .error fault =>
    return .error (.config
      ("Invalid PostgreSQL URL: " ++ (Store.Failure.badSetting fault.message).message))
  | .ok address =>
    if ← reaches address then return .ok (poolOf d)
    else return .error (.failed .postgres .poolTimedOut)

end NamedSql.Postgres
