import NamedSql.Sqlite.Like
import NamedSql.Sqlite.Number
import NamedSql.Sqlite.Row
import NamedSql.Text.Integer
/-!
A SQLite database with a single table of notes, each with a number and a title. It knows the
statements that add, rename and remove a note, and the queries that list the notes a filter lets
through; every other statement is about a table that is not there.
-/
namespace NamedSql.Sqlite

/-- A row of the table. -/
structure Note where
  id : Int64
  title : String
deriving Repr, DecidableEq

/-- The notes by increasing number. -/
abbrev Notes := List Note

/-- The columns of the table. -/
inductive NoteColumn where
  | id
  | title
deriving Repr, DecidableEq

/-- The column of a name. -/
def NoteColumn.ofName? (s : String) : Option NoteColumn :=
  [("id", id), ("title", title)].lookup s

/-- What a query asks of a note. -/
inductive NoteCondition where
  | always
  /-- A column compares with a value in one of these ways. -/
  | compares (column : NoteColumn) (orders : List Ordering) (v : Value)
  /-- The text of a column matches a pattern. -/
  | like (column : NoteColumn) (pattern : Value)
  | between (column : NoteColumn) (low high : Value)
deriving Repr, DecidableEq

namespace Note

/-- How a column compares with a value, unless the value is null. A title compares as a text, a
number with the number that a text stands for; it is less than any other text. -/
def compare? (note : Note) (v : Value) : NoteColumn → Option Ordering
  | .title => (textOf? v).map fun s => compare note.title s
  | .id =>
    match numberOf? v, v with
    | some n, _ => some (Number.compareInt note.id n)
    | none, .text _ => some .lt
    | none, _ => none

/-- The text of a column. -/
def text (note : Note) : NoteColumn → String
  | .id => toString note.id.toInt
  | .title => note.title

/-- Whether a note is as asked. -/
def meets (note : Note) : NoteCondition → Bool
  | .always => true
  | .compares column orders v => (note.compare? v column).any (· ∈ orders)
  | .like column pattern => (textOf? pattern).any fun p => isLike (note.text column) p
  | .between column low high =>
    (note.compare? low column).any (· ∈ [.gt, .eq]) &&
      (note.compare? high column).any (· ∈ [.lt, .eq])

/-- The note as a row of a result. -/
def toRow (note : Note) : Row :=
  rowOf [("id", .value (.int note.id)), ("title", .value (.text note.title))]

end Note

/-- The comparisons by their signs, with what may come out. -/
def comparisons : List (String × List Ordering) :=
  [("=", [.eq]), ("!=", [.lt, .gt]), (">", [.gt]), (">=", [.gt, .eq]), ("<", [.lt]),
    ("<=", [.lt, .eq])]

/-- The condition that words write, with its values. -/
def NoteCondition.ofWords? (words : List String) (values : List Value) : Option NoteCondition :=
  match words, values with
  | ["(1", "=", "1)"], [] => some always
  | [column, "IS", "NOT", "NULL"], [] => (NoteColumn.ofName? column).map fun _ => always
  | [column, "LIKE", "?"], [v] => (NoteColumn.ofName? column).map (like · v)
  | [column, "BETWEEN", "?", "AND", "?"], [low, high] =>
    (NoteColumn.ofName? column).map (between · low high)
  | [column, sign, "?"], [v] => do
    return compares (← NoteColumn.ofName? column) (← comparisons.lookup sign) v
  | _, _ => none

/-- The words of a text. -/
def wordsOf (s : List Char) : List String := (Text.splitAll ' ' s).map String.ofList

/-- The words that follow the first ones. -/
def after? (first : String) (words : List String) : Option (List String) :=
  (wordsOf first.toList).isPrefixOf? words

/-- The words before the last ones. -/
def before? (last : String) (words : List String) : Option (List String) :=
  ((wordsOf last.toList).reverse.isPrefixOf? words.reverse).map List.reverse

/-- The condition of a listing. -/
def listing? (words : List String) (values : List Value) : Option NoteCondition := do
  let rest ← after? "SELECT id, title FROM notes WHERE" words
  let condition ← before? "ORDER BY id" rest
  NoteCondition.ofWords? condition values

/-- The condition of the listing whose rows are counted. -/
def counted? (sql : String) (values : List Value) : Option NoteCondition := do
  let rest ← "SELECT COUNT(*) FROM (".toList.isPrefixOf? sql.toList
  let query ← ") AS res".toList.reverse.isPrefixOf? rest.reverse
  listing? (wordsOf query.reverse) values

/-- The condition of a listing of some of the rows, with their limit and offset. -/
def limited? (sql : String) (values : List Value) : Option (NoteCondition × Int64 × Int64) := do
  match (wordsOf sql.toList).reverse with
  | offset :: "OFFSET" :: limit :: "LIMIT" :: query =>
    return (← listing? query.reverse values, ← Text.readInt64? limit.toList,
      ← Text.readInt64? offset.toList)
  | _ => none

namespace Notes

/-- The notes with one more, in its place. -/
def put (note : Note) : Notes → Notes
  | [] => [note]
  | other :: rest => if note.id < other.id then note :: other :: rest else other :: put note rest

/-- The number of a note that is added without one. -/
def nextId (notes : Notes) : Int64 :=
  match notes.getLast? with
  | none => 1
  | some note => note.id + 1

/-- Whether a note is the one that a value names. -/
def isNamed (v : Value) (note : Note) : Bool := note.compare? v .id = some .eq

/-- Adds a note. -/
def add (notes : Notes) (id title : Value) : Except String (Notes × Nat) := do
  let id ← match id, numberOf? id with
    | .null, _ => pure notes.nextId
    | _, number =>
      match number.bind Number.toInt? with
      | some id => pure id
      | none => .error "(code: 20) datatype mismatch"
  match textOf? title with
  | none => .error "(code: 1299) NOT NULL constraint failed: notes.title"
  | some title =>
    if notes.any (·.id = id) then .error "(code: 1555) UNIQUE constraint failed: notes.id"
    else return (put ⟨id, title⟩ notes, 1)

/-- Gives a note another title. -/
def rename (notes : Notes) (title id : Value) : Except String (Notes × Nat) :=
  if notes.any (isNamed id) then
    match textOf? title with
    | none => .error "(code: 1299) NOT NULL constraint failed: notes.title"
    | some title =>
      .ok (notes.map fun note => if isNamed id note then { note with title } else note, 1)
  else .ok (notes, 0)

/-- Removes a note. -/
def remove (notes : Notes) (id : Value) : Notes × Nat :=
  let kept := notes.filter fun note => !isNamed id note
  (kept, notes.length - kept.length)

/-- What is answered about a table that is not there. -/
def noTable : String := "(code: 1) no such table: missing"

/-- Carries out a statement, and tells how many notes it has changed. -/
def execute (notes : Notes) (sql : String) (values : List Value) : Except String (Notes × Nat) :=
  match sql, values with
  | "INSERT INTO notes (id, title) VALUES (?, ?)", [id, title] => notes.add id title
  | "UPDATE notes SET title = ? WHERE id = ?", [title, id] => notes.rename title id
  | "DELETE FROM notes WHERE id = ?", [id] => .ok (notes.remove id)
  | _, _ => .error noTable

/-- The number of rows that a count asks for. -/
def count (notes : Notes) (sql : String) (values : List Value) : Except String Int64 :=
  match counted? sql values with
  | some condition => .ok (Int64.ofNat (notes.countP (·.meets condition)))
  | none => .error noTable

/-- The rows of a query. -/
def rows (notes : Notes) (sql : String) (values : List Value) : Except String (List Row) :=
  match limited? sql values with
  | some (condition, limit, offset) =>
    .ok ((windowOf limit offset (notes.filter (·.meets condition))).map Note.toRow)
  | none => .error noTable

/-- Runs a statement whose placeholders are expanded. -/
def run {α : Type} (sql : String) (params : Params)
    (answer : Notes → String → List Value → Except String (Notes × α)) :
    StateM Notes (Except Store.Error α) := fun notes =>
  match Sql.Dialect.sqlite.expand sql params with
  | .error e => (.error e, notes)
  | .ok expansion =>
    match answer notes expansion.sql expansion.values with
    | .error reason => (.error (.failed .sqlite (.refused reason)), notes)
    | .ok (notes, a) => (.ok a, notes)

end Notes

/-- The store of a database of notes. -/
def notes : Store Notes where
  dialect := .sqlite
  ping := pure (.ok ())
  count sql params := Notes.run sql params fun notes sql values =>
    (notes.count sql values).map (notes, ·)
  rows sql params := Notes.run sql params fun notes sql values =>
    (notes.rows sql values).map (notes, ·)
  execute sql params := Notes.run sql params fun notes sql values =>
    (notes.execute sql values).map fun (notes, n) => (notes, UInt64.ofNat n)

end NamedSql.Sqlite
