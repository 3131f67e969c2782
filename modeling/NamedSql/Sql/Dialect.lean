import NamedSql.Text.Blank
import NamedSql.Text.Split
/-!
What differs between database systems in the text of a statement: the placeholder and the clause
that restricts a query to a window of its rows. The clause, and the text that makes a query a count
of its rows, are put after the query so that a line comment at its end does not swallow them.
-/
namespace NamedSql.Sql

/-- The clause for `limit` rows from `offset` on, as the numbers are. -/
def plainWindow (limit offset : Int64) : String :=
  "LIMIT " ++ toString limit.toInt ++ " OFFSET " ++ toString offset.toInt

/-- The clause with negative numbers raised to zero. -/
def clampedWindow (limit offset : Int64) : String := plainWindow (max limit 0) (max offset 0)

/-- How a database system writes placeholders and windows. -/
structure Dialect where
  name : String
  /-- The placeholder of the n-th value, counted from one. -/
  placeholder : Nat → String
  /-- The clause for a number of rows from an offset on. -/
  window : Int64 → Int64 → String := plainWindow

namespace Dialect

/-- Placeholders are question marks. -/
def sqlite : Dialect := ⟨"sqlite", fun _ => "?", clampedWindow⟩

/-- Placeholders are numbered. -/
def postgres : Dialect := ⟨"postgres", fun n => "$" ++ toString n, clampedWindow⟩

/-- Whether the last line has two dashes, so that text after it might be part of a comment. -/
def mayEndInComment (s : List Char) : Bool :=
  Text.contains ['-', '-'] (s.reverse.takeWhile (· != '\n')).reverse

/-- The query restricted to `limit` rows from `offset` on. -/
def limited (d : Dialect) (sql : String) (limit offset : Int64) : String :=
  let query := Text.trimEnd sql.toList
  let gap := if mayEndInComment query then '\n' else ' '
  String.ofList (query ++ [gap] ++ (d.window limit offset).toList)

/-- The query for the number of rows of a query. -/
def counted (_d : Dialect) (sql : String) : String :=
  let query := Text.trimEnd sql.toList
  let gap := if mayEndInComment query then ['\n'] else []
  String.ofList ("SELECT COUNT(*) FROM (".toList ++ query ++ gap ++ ") AS res".toList)

end Dialect

end NamedSql.Sql
