import NamedSql.Decimal.Power
/-!
Reading decimal integers: an optional sign and ASCII digits, nothing else.
-/
namespace NamedSql.Text

/-- The integer that a text writes. -/
def readInt? (s : List Char) : Option Int :=
  let (negative, digits) := match s with
    | '-' :: digits => (true, digits)
    | '+' :: digits => (false, digits)
    | digits => (false, digits)
  if digits.isEmpty ∨ !digits.all Char.isDigit then none
  else
    let n : Nat := digits.foldl (fun n c => n * 10 + (c.toNat - 48)) 0
    some (if negative then -n else n)

/-- The signed 64-bit integer that a text writes. -/
def readInt64? (s : List Char) : Option Int64 := do
  let n ← readInt? s
  if fitsBits 64 n then some (Int64.ofInt n) else none

end NamedSql.Text
