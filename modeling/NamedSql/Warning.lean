/-!
What the service warns its operator of. A warning has a fixed text and named details.
-/
namespace NamedSql

/-- A condition that is no error but is probably not meant. -/
inductive Warning where
  /-- A configuration file has fields that nothing reads. -/
  | unknownFields (fields : List String)
  | noOperations
  /-- Filtering is switched on for an operation that has no rows to filter. -/
  | filteringIgnored (operation : String)
  /-- The filter binds a name that the statement binds too. -/
  | filterOverrides (parameter : String)
deriving DecidableEq, Repr

namespace Warning

/-- The text of a warning. -/
def message : Warning → String
  | unknownFields _ => "Unknown fields in config file (possible typos)"
  | noOperations => "No operations configured"
  | filteringIgnored _ => "Builtin filtering is ignored for execute operations"
  | filterOverrides _ => "Filter parameter overrides template parameter"

/-- The details of a warning, each under its name. -/
def details : Warning → List (String × String)
  | unknownFields fields => [("fields", ", ".intercalate fields)]
  | noOperations => []
  | filteringIgnored operation => [("operation", operation)]
  | filterOverrides parameter => [("parameter", parameter)]

end Warning

end NamedSql
