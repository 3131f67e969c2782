import NamedSql.Bytes.Hex
import NamedSql.Text.Split
/-!
Sets of characters written as rows of code points in hexadecimal. A row holds single code points and
ranges with both ends, parted by blanks.
-/
namespace NamedSql.Text

/-- The number that hexadecimal digits write. -/
def hexNumber (digits : List Char) : Nat :=
  digits.foldl (fun n c => n * 16 + (Bytes.hexValue? c).getD 0) 0

/-- The ends of a range; a single code point is a range of its own. -/
def rangeEnds (range : List Char) : Nat × Nat :=
  match splitFirst ['-'] range with
  | some (first, last) => (hexNumber first, hexNumber last)
  | none => (hexNumber range, hexNumber range)

/-- The ranges of rows. -/
def codePoints (rows : List String) : List (Nat × Nat) :=
  rows.flatMap fun row => (splitAll ' ' row.toList).map rangeEnds

/-- Whether a character is in one of the ranges. -/
def isAmong (ranges : List (Nat × Nat)) (c : Char) : Bool :=
  ranges.any fun (first, last) => first ≤ c.toNat && c.toNat ≤ last

end NamedSql.Text
