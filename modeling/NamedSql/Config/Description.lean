import NamedSql.Config.Settings
/-!
Database settings as a log shows them: every field by name, texts quoted, the password in the URL
hidden.
-/
namespace NamedSql.Config

/-- A structure with its fields as a log shows it. -/
def described (name : String) (fields : List (String × String)) : String :=
  name ++ " \x7b " ++ ", ".intercalate (fields.map fun (field, value) => field ++ ": " ++ value) ++
    " \x7d"

/-- A value that may be missing as a log shows it. -/
def describedOption {α : Type} (describe : α → String) : Option α → String
  | none => "None"
  | some a => "Some(" ++ describe a ++ ")"

/-- A database system as a log shows it. -/
def describedBackend : Store.Backend → String
  | .sqlite => "Sqlite"
  | .postgres => "Postgres"

/-- A URL as a log shows it. -/
def describedUrl (url : String) : String := Text.quoted (redactUrl url)

/-- The settings of the database as a log shows them. -/
def Database.describe (d : Database) : String :=
  described "DatabaseConfig"
    [("backend", describedBackend d.backend), ("url", describedUrl d.url),
      ("max_connections", toString d.maxConnections.toNat),
      ("min_connections", toString d.minConnections.toNat),
      ("acquire_timeout_secs", toString d.acquireTimeout.toNat),
      ("statement_timeout_secs", toString d.statementTimeout.toNat)]

/-- The database section of a file as a log shows it. -/
def DatabaseSection.describe (d : DatabaseSection) : String :=
  let connections := describedOption fun n : UInt32 => toString n.toNat
  let seconds := describedOption fun n : UInt64 => toString n.toNat
  described "DatabaseFileConfig"
    [("backend", describedOption describedBackend d.backend),
      ("url", describedOption describedUrl d.url),
      ("max_connections", connections d.maxConnections),
      ("min_connections", connections d.minConnections),
      ("acquire_timeout_secs", seconds d.acquireTimeout),
      ("statement_timeout_secs", seconds d.statementTimeout)]

end NamedSql.Config
