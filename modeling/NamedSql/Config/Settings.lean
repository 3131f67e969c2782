import NamedSql.CommandLine.Options
import NamedSql.Config.File
import NamedSql.Config.Redaction
import NamedSql.Text.Blank
import NamedSql.Text.Quoted
import NamedSql.Warning
/-!
The settings that the service runs with. Each is taken from the highest layer that sets it: the
command line, then the files, then the default. Settings that the service could not run with are
defects.
-/
namespace NamedSql.Config

/-- Which database is used and how. A number that is zero leaves the choice to the database. -/
structure Database where
  backend : Store.Backend := .sqlite
  url : String := ""
  maxConnections : UInt32 := 0
  minConnections : UInt32 := 0
  /-- How many seconds a call waits for a free connection. -/
  acquireTimeout : UInt64 := 0
  /-- How many seconds a statement may take; only PostgreSQL knows such a limit. -/
  statementTimeout : UInt64 := 0
deriving Repr, DecidableEq, Inhabited

/-- What the service runs with. -/
structure Settings where
  host : String
  port : UInt16
  database : Database
  operations : NameMap Operation
  debug : Bool
deriving Inhabited

/-- The host if no layer sets one. -/
def defaultHost : String := "127.0.0.1"

/-- The port if no layer sets one. -/
def defaultPort : UInt16 := 5480

/-- The URL of the database if no layer sets one. -/
def defaultUrl : String := "sqlite://sqlgate.db"

/-- How many seconds a call waits for a connection if no time is set. -/
def defaultAcquireTimeout : UInt64 := 10

/-- How many connections there may be if no number is set. -/
def defaultMaxConnections : UInt32 := 5

namespace Database

/-- How many seconds a call waits for a free connection. -/
def effectiveAcquireTimeout (d : Database) : UInt64 :=
  if 0 < d.acquireTimeout then d.acquireTimeout else defaultAcquireTimeout

/-- How many connections there may be. -/
def effectiveMaxConnections (d : Database) : UInt32 :=
  if 0 < d.maxConnections then d.maxConnections else defaultMaxConnections

end Database

namespace Settings

/-- The settings of a command line over the files, over the defaults. -/
def ofLayers (file : File) (options : CommandLine.Options) : Settings :=
  let server := file.server.getD {}
  let database := file.database.getD {}
  { host := (options.host <|> server.host).getD defaultHost
    port := (options.port <|> server.port).getD defaultPort
    database :=
      { backend := (options.backend <|> database.backend).getD .sqlite
        url := (options.url <|> database.url).getD defaultUrl
        maxConnections := database.maxConnections.getD 0
        minConnections := database.minConnections.getD 0
        acquireTimeout := database.acquireTimeout.getD 0
        statementTimeout := database.statementTimeout.getD 0 }
    operations := file.operations.getD NameMap.empty
    debug := options.debug || file.debug.getD false }

end Settings

/-- Why the service cannot run with its settings. -/
inductive Defect where
  | emptyHost
  | zeroPort
  | blankUrl
  /-- The database is PostgreSQL, but the URL is none of its. -/
  | foreignUrl
deriving DecidableEq, Repr

/-- The text of a defect. -/
def Defect.message : Defect → String
  | emptyHost => "Configuration error: server.host must not be empty"
  | zeroPort => "Configuration error: server.port must be greater than 0"
  | blankUrl => "Configuration error: database.url must not be empty"
  | foreignUrl =>
    "Configuration error: database.url must be a postgres:// URL for the postgres backend"

/-- What every URL of a PostgreSQL database begins with. -/
def postgresStart : String := "postgres"

namespace Settings

/-- The first defect of the settings. -/
def defect? (s : Settings) : Option Defect :=
  if s.host.isEmpty then some .emptyHost
  else if s.port = 0 then some .zeroPort
  else if Text.isAllBlank s.database.url then some .blankUrl
  else if s.database.backend = .postgres ∧
      ¬ postgresStart.toList.isPrefixOf s.database.url.toList then some .foreignUrl
  else none

/-- What the operator should know about settings without a defect. -/
def warnings (s : Settings) : List Warning := if s.operations.size = 0 then [.noOperations] else []

end Settings

end NamedSql.Config
