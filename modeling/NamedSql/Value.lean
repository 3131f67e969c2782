import NamedSql.Json.Printer
/-!
Values bound to the parameters of a statement, and the parameters themselves.
-/
namespace NamedSql

/-- A value that a statement is run with. -/
inductive Value where
  | null
  | bool (b : Bool)
  | int (n : Int64)
  | float (x : Binary64)
  | text (s : String)
deriving DecidableEq, Repr, Inhabited

/-- The value that a JSON value binds. A number that is no signed 64-bit integer binds as a double,
lists and objects as their text. -/
def Value.ofJson : Json → Value
  | .null => null
  | .bool b => bool b
  | .number n =>
    match n.toInt64? with
    | some i => int i
    | none => float n.toBinary64
  | .text s => text s
  | j => text j.render

/-- The values of named parameters, in order. -/
abbrev Params := Record Value

end NamedSql
