/-!
The window of a result that one request gets. What a request asks for is never refused, only
confined.
-/
namespace NamedSql

/-- A window of a result: where it starts, and at most how many rows it has. -/
structure Page where
  start : Int64
  count : Int64
deriving DecidableEq, Repr

/-- The page size of an operation that sets none. -/
def Page.defaultLimit : Int64 := 16

/-- The page size of an operation: the limit it sets, if positive. -/
def Page.size (limit : Int64) : Int64 := if 0 < limit then limit else defaultLimit

/-- The window for a requested start and count: the start is at least zero, and a count that is
not between one and the page size is the page size. -/
def Page.plan (start count limit : Int64) : Page where
  start := max start 0
  count := if 1 ≤ count ∧ count ≤ size limit then count else size limit

end NamedSql
