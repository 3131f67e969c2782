import NamedSql.Config.Section
import NamedSql.NameMap
import NamedSql.Operation.Config
/-!
Configuration files. A file is a JSON object with two sections, the operations by name and a switch
for debugging, all of them optional. Members that it should not have are remembered by name, since
they are probably misspelt.

One file may be put over another: what it sets replaces what the other sets, field by field within a
section, but an operation as a whole.
-/
namespace NamedSql.Config

/-- What a configuration file says. -/
structure File where
  server : Option ServerSection := none
  database : Option DatabaseSection := none
  operations : Option (NameMap Operation) := none
  debug : Option Bool := none
  /-- The members that nothing reads. -/
  unknown : List String := []
deriving Inhabited

namespace File

/-- The members that a file may have. -/
def fields : List Json.Draft.Field :=
  [⟨"server", []⟩, ⟨"database", []⟩, ⟨"operations", []⟩, ⟨"debug", []⟩]

/-- Reads operations by name. Of two under one name the last counts. -/
def operations? : Json.Draft → Option (NameMap Operation)
  | .object members => do
    let operations ← members.mapM fun (key, d) => do return (← key, ← Operation.ofDraft? d)
    return NameMap.ofList operations
  | _ => none

/-- The names of the members that are none of the fields, each at its first place. What they hold
has to be readable all the same. -/
def unknownNames? (members : List (Option String × Json.Draft)) : Option (List String) := do
  let unknown := members.filter fun (key, _) => !fields.any fun field => key.any field.isNamed
  match ← Json.Draft.members? (Json.Draft.depthLimit - 1) unknown [] with
  | .object found => return found.map Prod.fst
  | _ => none

/-- Reads a file. -/
def ofDraft? : Json.Draft → Option File
  | .object members => do
    let found ← (Json.Draft.object members).fields? fields false
    let server ← setting? found "server" ServerSection.ofDraft?
    let database ← setting? found "database" DatabaseSection.ofDraft?
    let operations ← setting? found "operations" operations?
    let debug ← setting? found "debug" Json.Draft.bool?
    let unknown ← unknownNames? members
    return { server, database, operations, debug, unknown }
  | _ => none

/-- Reads the text of a file. -/
def ofText? (s : String) : Option File := Json.Draft.read? s >>= ofDraft?

/-- The file with what `upper` sets put over it. -/
def overlay (lower upper : File) : File where
  server := match upper.server with
    | none => lower.server
    | some section_ => some ((lower.server.getD {}).overlay section_)
  database := match upper.database with
    | none => lower.database
    | some section_ => some ((lower.database.getD {}).overlay section_)
  operations := match upper.operations with
    | none => lower.operations
    | some operations => some ((lower.operations.getD NameMap.empty).insertAll operations.entries)
  debug := upper.debug <|> lower.debug
  unknown := lower.unknown

end File

end NamedSql.Config
