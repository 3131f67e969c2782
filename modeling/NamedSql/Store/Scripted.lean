import NamedSql.Store
/-!
A store that answers as a script says and keeps a list of the calls it gets. Like every store it
expands the placeholders of a statement first, and a call that this fails for is answered with that
error. With it, what is asked of a store can be stated and seen.
-/
namespace NamedSql.Store

/-- What is asked of a store. -/
inductive Question where
  | ping
  | count
  | rows
  | execute
deriving DecidableEq, Repr

/-- A call, and the statement that the database would have got. -/
structure Call where
  question : Question
  sql : String
  params : Params
  expansion : Except Error Sql.Expansion

/-- What a scripted store answers. -/
structure Script where
  ping : Except Error Unit
  count : Except Error Int64
  rows : Except Error (List Row)
  affected : Except Error UInt64

/-- The script that is in force and the calls so far. -/
structure Scripted where
  script : Script
  calls : List Call

/-- Notes a call, and answers it if its placeholders can be expanded. -/
def Scripted.answer {α : Type} (dialect : Sql.Dialect) (question : Question) (sql : String)
    (params : Params) (scripted : Script → Except Error α) :
    StateM Scripted (Except Error α) := fun state =>
  let expansion := dialect.expand sql params
  (expansion.bind fun _ => scripted state.script,
    { state with calls := state.calls ++ [⟨question, sql, params, expansion⟩] })

/-- The statement that a store is asked with whether it is there. -/
def pingSql : String := "SELECT 1"

/-- The scripted store of a dialect. -/
def scripted (dialect : Sql.Dialect) : Store Scripted where
  dialect := dialect
  ping := Scripted.answer dialect .ping pingSql Record.empty Script.ping
  count sql params := Scripted.answer dialect .count sql params Script.count
  rows sql params := Scripted.answer dialect .rows sql params Script.rows
  execute sql params := Scripted.answer dialect .execute sql params Script.affected

end NamedSql.Store
