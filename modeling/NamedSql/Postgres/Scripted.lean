import NamedSql.Postgres.Connection
import NamedSql.Postgres.TypeName
/-!
A server that answers as a script says and keeps a list of the messages it gets.
-/
namespace NamedSql.Postgres

/-- What a scripted server answers. -/
structure Script where
  /-- The types that it infers for placeholders. -/
  parameters : List String
  columns : List (String × String)
  rows : List (List WireValue)
  /-- The answer to statements that count rows. -/
  count : Option Int64
  tag : Option String
  /-- Why a statement is not parsed that no types are given for. -/
  inferError : Option String
  /-- Why a statement is not parsed that types are given for. -/
  parseError : Option String
  executeError : Option String

/-- A script without any answers. -/
def Script.empty : Script := ⟨[], [], [], none, none, none, none, none⟩

/-- A message to a server. -/
inductive Message where
  | parse (sql : String) (types : List String)
  | execute (sql : String) (values : List WireValue)
deriving DecidableEq, Repr

/-- The script that is in force, the types declared on the server, and the messages so far. -/
structure Scripted where
  declared : List String
  script : Script
  received : List Message

namespace Scripted

/-- What a statement that counts rows begins with. -/
def countHead : List Char := "SELECT COUNT(*) FROM (".toList

/-- The scripted count, if a statement counts rows. -/
def count? (s : Scripted) (sql : String) : Option Int64 :=
  if countHead.isPrefixOf sql.toList then s.script.count else none

/-- What a statement has for placeholders and columns. -/
def describe (s : Scripted) (sql : String) : Description where
  parameters := s.script.parameters.map (typeName s.declared)
  columns :=
    if (s.count? sql).isSome then [("count", "INT8")]
    else s.script.columns.map fun column => (column.1, typeName s.declared column.2)

/-- What a statement gives. -/
def outcome (s : Scripted) (sql : String) : Outcome :=
  let rows := match s.count? sql with
    | some n => [[some (Bytes.ofUInt64 n.toUInt64)]]
    | none => s.script.rows
  ⟨rows, s.script.tag.getD ("SELECT " ++ toString rows.length)⟩

/-- The error or else the answer. -/
def answerUnless {α : Type} (error : Option String) (answer : α) : Except String α :=
  match error with
  | some reason => .error reason
  | none => .ok answer

/-- The scripted server. -/
def server : Server Scripted where
  parse sql types := fun s =>
    (answerUnless (if types.isEmpty then s.script.inferError else s.script.parseError)
        (s.describe sql),
      { s with received := s.received ++ [.parse sql types] })
  execute sql values := fun s =>
    (answerUnless s.script.executeError (s.outcome sql),
      { s with received := s.received ++ [.execute sql values] })

end Scripted

end NamedSql.Postgres
