import NamedSql.Bytes.Hex
/-!
Texts as JSON writes them between quotes: escaped, and read back from their escapes. A text with an
unpaired surrogate is spelt correctly but stands for no text.
-/
namespace NamedSql.Json.Text

/-- The escape of a character, or the character itself. -/
def escape (c : Char) : List Char :=
  match c with
  | '"' => ['\\', '"']
  | '\\' => ['\\', '\\']
  | '\n' => ['\\', 'n']
  | '\r' => ['\\', 'r']
  | '\t' => ['\\', 't']
  | c =>
    if c.toNat = 8 then ['\\', 'b']
    else if c.toNat = 12 then ['\\', 'f']
    else if c.toNat < 32 then '\\' :: 'u' :: Bytes.hexDigits 4 c.toNat
    else [c]

/-- A text between quotes. -/
def quote (s : String) : String :=
  String.ofList ('"' :: s.toList.flatMap escape ++ ['"'])

/-- The number that four hexadecimal digits write. -/
def unit? (a b c d : Char) : Option Nat := do
  let a ← Bytes.hexValue? a
  let b ← Bytes.hexValue? b
  let c ← Bytes.hexValue? c
  let d ← Bytes.hexValue? d
  return ((a * 16 + b) * 16 + c) * 16 + d

/-- The character of an escape of one letter. -/
def shortEscape? (c : Char) : Option Char :=
  match c with
  | '"' => some '"'
  | '\\' => some '\\'
  | '/' => some '/'
  | 'b' => some (Char.ofNat 8)
  | 'f' => some (Char.ofNat 12)
  | 'n' => some '\n'
  | 'r' => some '\r'
  | 't' => some '\t'
  | _ => none

/-- A character of a text, or a surrogate that was written as an escape. -/
inductive Piece where
  | char (c : Char)
  | high (bits : Nat)
  | low (bits : Nat)

/-- The piece that an escaped 16-bit unit stands for. -/
def Piece.ofUnit (n : Nat) : Piece :=
  if 0xD800 ≤ n ∧ n < 0xDC00 then high (n - 0xD800)
  else if 0xDC00 ≤ n ∧ n < 0xE000 then low (n - 0xDC00)
  else char (Char.ofNat n)

/-- Reads what stands between quotes, after the pieces `done` in reverse. -/
def piecesFrom : List Char → List Piece → Option (List Piece)
  | [], done => some done.reverse
  | '\\' :: 'u' :: a :: b :: c :: d :: rest, done =>
    match unit? a b c d with
    | none => none
    | some n => piecesFrom rest (.ofUnit n :: done)
  | '\\' :: c :: rest, done =>
    match shortEscape? c with
    | none => none
    | some e => piecesFrom rest (.char e :: done)
  | c :: rest, done =>
    if c.toNat < 32 ∨ c = '\\' then none else piecesFrom rest (.char c :: done)

/-- The text of pieces, after the characters `done` in reverse, if each surrogate is paired. -/
def joinFrom : List Piece → List Char → Option String
  | [], done => some (String.ofList done.reverse)
  | .char c :: rest, done => joinFrom rest (c :: done)
  | .high a :: .low b :: rest, done =>
    joinFrom rest (Char.ofNat (0x10000 + a * 0x400 + b) :: done)
  | _, _ => none

/-- Reads what stands between quotes: none if it is misspelt, and no text inside if a surrogate is
unpaired. -/
def unescape? (raw : List Char) : Option (Option String) := do
  let pieces ← piecesFrom raw []
  return joinFrom pieces []

end NamedSql.Json.Text
