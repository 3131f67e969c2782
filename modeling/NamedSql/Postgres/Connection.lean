import NamedSql.Bytes.BigEndian
import NamedSql.Postgres.Cast
import NamedSql.Postgres.Cell
import NamedSql.Store
/-!
A PostgreSQL store on one connection. A server parses a statement, which tells the types of its
placeholders and of its columns, and executes a parsed statement with values. The connection keeps
the statements that were parsed, by their text. Before a statement with values is run, it is parsed
without types, to learn which types the server infers; then every value is cast to the type inferred
for it. If the server cannot infer them, the values keep their own types.
-/
namespace NamedSql.Postgres

/-- A value as it is sent: its bytes, or none for null. -/
abbrev WireValue := Option (List UInt8)

/-- What parsing tells of a statement. -/
structure Description where
  /-- The types of the placeholders. -/
  parameters : List String
  /-- The columns of the result with their types. -/
  columns : List (String × String)

/-- What executing a statement gives. -/
structure Outcome where
  rows : List (List WireValue)
  /-- Says what was done, and at its end to how many rows. -/
  tag : String

/-- A server with states of type `σ`. -/
structure Server (σ : Type) where
  /-- Parses a statement; types may be given for its placeholders. -/
  parse : String → List String → StateM σ (Except String Description)
  execute : String → List WireValue → StateM σ (Except String Outcome)

/-- A connection to a server. -/
structure Connection (σ : Type) where
  server : σ
  isOpen : Bool
  /-- The statements that were parsed. -/
  kept : Record Description

/-- The bytes of a value. -/
def wireValue : Value → WireValue
  | .null => none
  | .bool b => some [if b then 1 else 0]
  | .int n => some (Bytes.ofUInt64 n.toUInt64)
  | .float x => some (Bytes.ofUInt64 x.bits)
  | .text s => some (Text.Utf8.encode s)

/-- How many rows a tag says were changed: the number after its last blank. -/
def Outcome.affected (o : Outcome) : UInt64 :=
  match Text.splitLast ' ' o.tag.toList with
  | none => 0
  | some (_, word) =>
    let n : Nat := (word.takeWhile Char.isDigit).foldl (fun n c => n * 10 + (c.toNat - 48)) 0
    if n < UInt64.size then UInt64.ofNat n else 0

/-- A row of the columns, as far as every value can be read. -/
def readRow? : List (String × String) → List WireValue → Option (List (String × Json))
  | [], _ => some []
  | (name, type) :: columns, values => do
    let cell ← match values.head?.join with
      | none => some .null
      | some bytes => Cell.read? type bytes
    return (name, cell) :: (← readRow? columns values.tail)

/-- An error of the database system. -/
def failure (f : Store.Failure) : Store.Error := .failed .postgres f

variable {σ : Type}

namespace Connection

/-- Lets the server do something. -/
def onServer {α : Type} (act : StateM σ α) : StateM (Connection σ) α := fun c =>
  let (result, server) := act c.server
  (result, { c with server })

/-- Parses a statement unless it is kept, and keeps it. -/
def prepare (server : Server σ) (sql : String) (types : List String) :
    StateM (Connection σ) (Except Store.Error Description) := do
  let c ← get
  if !c.isOpen then return .error (failure .poolClosed)
  match c.kept.get? sql with
  | some description => return .ok description
  | none =>
    match ← onServer (server.parse sql types) with
    | .error reason => return .error (failure (.refused reason))
    | .ok description =>
      modify fun c => { c with kept := c.kept.insert sql description }
      return .ok description

/-- Expands the placeholders of a statement, with casts to the types that the server infers. -/
def expand (server : Server σ) (sql : String) (params : Params) :
    StateM (Connection σ) (Except Store.Error Sql.Expansion) := do
  match Sql.Dialect.postgres.expand sql params with
  | .error e => return .error e
  | .ok plain =>
    if plain.values.isEmpty then return .ok plain
    match ← prepare server plain.sql [] with
    | .error _ => return .ok plain
    | .ok description =>
      match expandCoerced sql params (description.parameters.map some) with
      | .ok coerced => return .ok coerced
      | .error unbound => return .error (.unbound unbound.name)

/-- Executes a statement whose placeholders are expanded. -/
def executeExpanded (server : Server σ) (e : Sql.Expansion) :
    StateM (Connection σ) (Except Store.Error (Description × Outcome)) := do
  match ← prepare server e.sql (e.values.map wireType) with
  | .error cause => return .error cause
  | .ok description =>
    match ← onServer (server.execute e.sql (e.values.map wireValue)) with
    | .error reason => return .error (failure (.refused reason))
    | .ok outcome => return .ok (description, outcome)

/-- Runs a statement, and reads what it gives. -/
def run {α : Type} (server : Server σ) (sql : String) (params : Params)
    (read : Description → Outcome → Except Store.Error α) :
    StateM (Connection σ) (Except Store.Error α) := do
  match ← expand server sql params with
  | .error cause => return .error cause
  | .ok expansion =>
    match ← executeExpanded server expansion with
    | .error cause => return .error cause
    | .ok (description, outcome) => return read description outcome

/-- The rows of a result, if every value can be read. -/
def readRows (d : Description) (o : Outcome) : Except Store.Error (List Row) :=
  match o.rows.mapM (readRow? d.columns) with
  | none => .error (failure .unreadable)
  | some rows => .ok (rows.map Record.ofList)

/-- The number in the first column of the first row, which must be a 64-bit integer. -/
def readCount (d : Description) (o : Outcome) : Except Store.Error Int64 :=
  match o.rows with
  | [] => .error (failure .rowNotFound)
  | row :: _ =>
    match d.columns, row with
    | (_, "INT8") :: _, some bytes :: _ =>
      match Cell.int? 64 bytes with
      | some n => .ok (Int64.ofInt n)
      | none => .error (failure .unreadable)
    | _, _ => .error (failure .unreadable)

/-- The statement that asks whether the server is there. -/
def pingStatement : Sql.Expansion := ⟨"SELECT 1", []⟩

/-- Closes a connection; nothing is answered on it any more. -/
def close (c : Connection σ) : Connection σ := { c with isOpen := false }

end Connection

/-- The store on a connection to a server. -/
def store (server : Server σ) : Store (Connection σ) where
  dialect := .postgres
  ping := do
    match ← Connection.executeExpanded server Connection.pingStatement with
    | .error cause => return .error cause
    | .ok _ => return .ok ()
  count sql params := Connection.run server sql params Connection.readCount
  rows sql params := Connection.run server sql params Connection.readRows
  execute sql params := Connection.run server sql params fun _ outcome => .ok outcome.affected

end NamedSql.Postgres
