import NamedSql.Json.Token
/-!
A JSON text as it is written: repeated members are kept apart, and numbers and texts that stand for
no value are kept as holes. What is read from a draft decides which of these matter. The reader
holds the containers that are open in a list, so that no text is too deep for it; a value may be
127 containers deep.
-/
namespace NamedSql.Json

/-- A JSON text as it is written. -/
inductive Draft where
  | null
  | bool (b : Bool)
  | number (n : Option Number)
  | text (s : Option String)
  | list (items : List Draft)
  | object (members : List (Option String × Draft))

namespace Draft

/-- A container that is open, with what it holds so far in reverse. -/
inductive Frame where
  | list (items : List Draft)
  | object (members : List (Option String × Draft)) (key : Option String)

/-- What may come next. -/
inductive Expected where
  /-- A value; where a list has just been opened, also its end. -/
  | value (closable : Bool)
  /-- A key; where an object has just been opened, also its end. -/
  | key (members : List (Option String × Draft)) (closable : Bool)
  | colon (members : List (Option String × Draft)) (key : Option String)
  | afterItem (items : List Draft)
  | afterMember (members : List (Option String × Draft))
  | ended (result : Draft)

/-- The open containers, the innermost first, and what may come next. -/
abbrev Reader := List Frame × Expected

/-- Puts a whole value into the innermost container. -/
def finish (frames : List Frame) (d : Draft) : Reader :=
  match frames with
  | [] => ([], .ended d)
  | .list items :: outer => (outer, .afterItem (d :: items))
  | .object members key :: outer => (outer, .afterMember ((key, d) :: members))

/-- Reads a token. -/
def step (reader : Reader) (token : Token) : Option Reader :=
  match reader, token with
  | (frames, .value _), .null => some (finish frames null)
  | (frames, .value _), .bool b => some (finish frames (bool b))
  | (frames, .value _), .number n => some (finish frames (number n))
  | (frames, .value _), .text s => some (finish frames (text s))
  | (frames, .value _), .openList => some (.list [] :: frames, .value true)
  | (frames, .value _), .openObject => some (frames, .key [] true)
  | (.list items :: frames, .value true), .closeList => some (finish frames (list items.reverse))
  | (frames, .key members _), .text s => some (frames, .colon members s)
  | (frames, .key members true), .closeObject =>
    some (finish frames (object members.reverse))
  | (frames, .colon members key), .colon => some (.object members key :: frames, .value false)
  | (frames, .afterItem items), .comma => some (.list items :: frames, .value false)
  | (frames, .afterItem items), .closeList => some (finish frames (list items.reverse))
  | (frames, .afterMember members), .comma => some (frames, .key members false)
  | (frames, .afterMember members), .closeObject =>
    some (finish frames (object members.reverse))
  | _, _ => none

/-- Reads a text. -/
def read? (s : String) : Option Draft := do
  let tokens ← Token.ofText? s.toList
  match ← tokens.foldlM step ([], .value false) with
  | ([], .ended d) => return d
  | _ => none

mutual

/-- The value of a draft, if it has no holes and is at most `depth` containers deep. A repeated
member keeps its first place and its last value. -/
def value? : Nat → Draft → Option Json
  | _, null => some .null
  | _, bool b => some (.bool b)
  | _, number n => n.map .number
  | _, text s => s.map .text
  | depth, list items => if depth = 0 then none else values? (depth - 1) items []
  | depth, object members => if depth = 0 then none else members? (depth - 1) members []

/-- The list of the values of drafts, after the ones read before in reverse. -/
def values? : Nat → List Draft → List Json → Option Json
  | _, [], done => some (.list done.reverse)
  | depth, d :: rest, done =>
    match value? depth d with
    | none => none
    | some j => values? depth rest (j :: done)

/-- The object of the values of members, after the ones read before. -/
def members? : Nat → List (Option String × Draft) → List (String × Json) → Option Json
  | _, [], done => some (.object done)
  | _, (none, _) :: _, _ => none
  | depth, (some key, d) :: rest, done =>
    match value? depth d with
    | none => none
    | some j => members? depth rest (Record.put key j done)

end

/-- How many containers deep a value may be. -/
def depthLimit : Nat := 127

end Draft

/-- The value of a JSON text. -/
def parse? (s : String) : Option Json := do
  let d ← Draft.read? s
  d.value? Draft.depthLimit

mutual

/-- The draft of a value. -/
def draft : Json → Draft
  | null => .null
  | bool b => .bool b
  | number n => .number (some n)
  | text s => .text (some s)
  | list items => .list (drafts items)
  | object members => .object (memberDrafts members)

/-- The drafts of values. -/
def drafts : List Json → List Draft
  | [] => []
  | j :: rest => draft j :: drafts rest

/-- The drafts of members. -/
def memberDrafts : List (String × Json) → List (Option String × Draft)
  | [] => []
  | (key, j) :: rest => (some key, draft j) :: memberDrafts rest

end

end NamedSql.Json
