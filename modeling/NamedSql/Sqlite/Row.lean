import NamedSql.Bytes.Base64
import NamedSql.Store
/-!
What SQLite hands back. It has no truth values, and no numbers but finite ones; bytes are shown in
Base64.
-/
namespace NamedSql.Sqlite

/-- What may stand in a column. -/
inductive Datum where
  | value (v : Value)
  | blob (bytes : List UInt8)
deriving Repr, DecidableEq

/-- A datum as it comes back. -/
def Datum.toJson : Datum → Json
  | value .null => .null
  | value (.bool b) => .ofInt (if b then 1 else 0)
  | value (.int n) => .ofInt n.toInt
  | value (.float x) => if x.isFinite then .number (.float x) else .null
  | value (.text s) => .text s
  | blob bytes => .text (Bytes.toBase64 bytes)

/-- A row of named columns. Of two columns of one name the last counts. -/
def rowOf (columns : List (String × Datum)) : Row :=
  Record.ofList (columns.map fun (name, datum) => (name, datum.toJson))

/-- The rows that are left of a result by a limit and an offset. -/
def windowOf {α : Type} (limit offset : Int64) (rows : List α) : List α :=
  (rows.drop offset.toInt.toNat).take limit.toInt.toNat

/-- A query of literals only, whose result has one row. -/
structure LiteralQuery where
  columns : List (String × Datum)

/-- How many rows the query has. -/
def LiteralQuery.count (_q : LiteralQuery) : Int64 := 1

/-- The rows of the query within a limit and an offset. -/
def LiteralQuery.rows (q : LiteralQuery) (limit offset : Int64) : List Row :=
  windowOf limit offset [rowOf q.columns]

end NamedSql.Sqlite
