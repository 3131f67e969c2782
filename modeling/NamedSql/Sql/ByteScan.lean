import NamedSql.Sql.Placeholder
import NamedSql.Sql.Reference
import NamedSql.Text.ByteOffset
/-!
Scanning a statement by the offsets of its bytes. A scan looks at the statement from an offset on, says
what stands there and how many bytes it takes, and goes on behind it. It has no result if it ever cuts the
statement within a character or beyond its end, or if it takes nothing there.
-/
namespace NamedSql.Sql.ByteScan
open Text

/-- The length of a literal that begins with a quote: through the next one, or to the end. -/
def quotedLength? (quote : Char) (rest : List Char) : Option Nat := do
  let inside ← dropBytes? 1 rest
  return (byteIndex? (· == quote) inside).elim (byteSize rest) (· + 2)

/-- The length of the literal or comment that a text begins with, if one does. -/
def spanLength? (rest : List Char) : Option (Option Nat) :=
  match rest with
  | '\'' :: _ => (quotedLength? '\'' rest).map some
  | '"' :: _ => (quotedLength? '"' rest).map some
  | '-' :: '-' :: _ => some (some ((byteIndex? (· == '\n') rest).elim (byteSize rest) (· + 1)))
  | '/' :: '*' :: _ => do
    let inside ← dropBytes? 2 rest
    return some ((byteIndexOf? ['*', '/'] inside).elim (byteSize rest) (· + 4))
  | _ => some none

/-- The length of the run of name characters that a text begins with. -/
def nameLength (s : List Char) : Nat := (byteIndex? (fun c => !isNameChar c) s).getD (byteSize s)

/-- What a statement begins with when placeholders are looked for, and its length. -/
def piece? (c : Char) (s : List Char) : Option (Piece × Nat) := do
  match ← spanLength? (c :: s) with
  | some length => return (.verbatim (← takeBytes? length (c :: s)), length)
  | none =>
    if c = ':' then
      let after ← dropBytes? 1 (c :: s)
      if after.head? = some ':' then return (.doubleColon, 2)
      else if after.head?.any isNameStart then
        let length := nameLength after
        return (.placeholder (← takeBytes? length after), 1 + length)
      else return (.other c, c.utf8Size)
    else return (.other c, c.utf8Size)

/-- What a statement begins with when references are looked for, and its length. -/
def part? (c : Char) (s : List Char) : Option (Part × Nat) := do
  match ← spanLength? (c :: s) with
  | some length => return (.verbatim (← takeBytes? length (c :: s)), length)
  | none =>
    if c = '\x7b' then
      let inner ← dropBytes? 1 (c :: s)
      let length := nameLength inner
      if 0 < length then
        let behind ← dropBytes? length inner
        if behind.head? = some '\x7d' then
          return (.reference (← takeBytes? length inner), length + 2)
        else return (.other c, c.utf8Size)
      else return (.other c, c.utf8Size)
    else return (.other c, c.utf8Size)

variable {α ε σ : Type}

/-- Scans from an offset on. What is found is handed to `visit`, which may give up; the offsets behind all
that it took are listed. -/
def scanFrom (found? : Char → List Char → Option (α × Nat)) (visit : σ → α → Except ε σ)
    (sql : List Char) (offset : Nat) (offsets : List Nat) (state : σ) :
    Option (List Nat × Except ε σ) :=
  match _ : dropBytes? offset sql with
  | none => none
  | some [] => some (offsets, .ok state)
  | some (c :: s) =>
    match found? c s with
    | none => none
    | some (found, length) =>
      match visit state found with
      | .error e => some (offsets, .error e)
      | .ok state =>
        -- A scan that takes no byte would look at the same place for good.
        if 0 < length then
          scanFrom found? visit sql (offset + length) (offsets ++ [offset + length]) state
        else none
termination_by byteSize sql - offset
decreasing_by
  have before := dropBytes?_lt ‹dropBytes? offset sql = some (c :: s)›
  omega

section Turns
variable {found? : Char → List Char → Option (α × Nat)} {sql s : List Char} {offset length : Nat}
  {c : Char} {item : α}

theorem scanFrom_end (here : dropBytes? offset sql = some []) (visit : σ → α → Except ε σ)
    (offsets : List Nat) (state : σ) :
    scanFrom found? visit sql offset offsets state = some (offsets, .ok state) := by
  rw [scanFrom]
  split <;> simp_all

theorem scanFrom_found (here : dropBytes? offset sql = some (c :: s))
    (found : found? c s = some (item, length)) (moves : 0 < length) (visit : σ → α → Except ε σ)
    (offsets : List Nat) (state : σ) :
    scanFrom found? visit sql offset offsets state =
      match visit state item with
      | .error e => some (offsets, .error e)
      | .ok state =>
        scanFrom found? visit sql (offset + length) (offsets ++ [offset + length]) state := by
  rw [scanFrom]
  split
  · simp_all
  · simp_all
  · rename_i there
    rw [here] at there
    cases there
    simp only [found, if_pos moves]

end Turns

/-- Writes a piece behind the text and lists its value behind the values. -/
def writePiece (params : Params) (render : Nat → Value → String) (written : List Char × List Value) :
    Piece → Except Unbound (List Char × List Value)
  | .placeholder name =>
    match params.get? (String.ofList name) with
    | none => .error ⟨String.ofList name⟩
    | some value =>
      let values := written.2 ++ [value]
      .ok (written.1 ++ (render values.length value).toList, values)
  | piece => .ok (written.1 ++ piece.text, written.2)

/-- Writes a part behind the text and lists the name that it refers to. -/
def writePart (written : List Char × List String) : Part → Except Empty (List Char × List String)
  | .reference name => .ok (written.1 ++ ':' :: name, written.2 ++ [String.ofList name])
  | part => .ok (written.1 ++ part.text, written.2)

/-- Expands the placeholders of a statement. -/
def expand (sql : String) (params : Params) (render : Nat → Value → String) :
    Option (List Nat × Except Unbound (List Char × List Value)) :=
  scanFrom piece? (writePiece params render) sql.toList 0 [] ([], [])

/-- Rewrites the references of a statement and lists their names. -/
def rewrite (sql : String) : Option (List Nat × Except Empty (List Char × List String)) :=
  scanFrom part? writePart sql.toList 0 [] ([], [])

end NamedSql.Sql.ByteScan
