import NamedSql.Decimal.Layout
import NamedSql.Decimal.Power
import NamedSql.Json
/-!
Reading and writing the numbers of JSON texts. A numeral without fraction and exponent is an
integer if it fits; `-0` and integers too great are doubles. A double is read in steps that are
rounded one by one: the first digits, as many as 64 bits hold, become a double, and this is multiplied
or divided by the power of ten that is nearest to the true one. The result may therefore be a
neighbour of the double nearest to the numeral, and where a product on the way would be infinite, the
numeral is no number, though a finite double may be near to it.
-/
namespace NamedSql.Json.Number

/-- The value of decimal digits. -/
def digitsValue (digits : List Char) : Nat := digits.foldl (fun n c => n * 10 + (c.toNat - 48)) 0

/-- The exponent part of a numeral: none if it is misspelt, zero if there is none. -/
def exponent? : List Char → Option Int
  | [] => some 0
  | c :: rest =>
    if c = 'e' ∨ c = 'E' then
      let (negative, digits) := match rest with
        | '-' :: digits => (true, digits)
        | '+' :: digits => (false, digits)
        | digits => (false, digits)
      if digits.isEmpty ∨ !digits.all Char.isDigit then none
      else some (if negative then -digitsValue digits else digitsValue digits)
    else none

/-- A number that digits continue as long as 64 bits hold it, and the digits that are left. -/
def absorb (n : Nat) : List Char → Nat × List Char
  | [] => (n, [])
  | c :: rest =>
    let next := n * 10 + (c.toNat - 48)
    if next < UInt64.size then absorb next rest else (n, c :: rest)

/-- The greatest exponent for which the double of a power of ten is finite. -/
def mostTens : Nat := 308

/-- The double of a power of ten. -/
def power (exponent : Nat) : Binary64 := Binary64.ofInt (tenTo exponent)

/-- A double divided by a power of ten: by the greatest one that there is, until the rest is one too. -/
def lower (x : Binary64) (exponent : Nat) : Binary64 :=
  if exponent ≤ mostTens then x.divide (power exponent)
  else if x.magnitude = 0 then x
  else lower (x.divide (power mostTens)) (exponent - mostTens)
termination_by exponent
decreasing_by
  have positive : 0 < mostTens := by decide
  omega

/-- A double multiplied by a power of ten; none when it would be infinite. -/
def raise? (x : Binary64) (exponent : Nat) : Option Binary64 :=
  if exponent ≤ mostTens then x.multiply? (power exponent)
  else if x.magnitude = 0 then some x
  else none

/-- The double that is read for `n * 10^exponent`, if it is one. -/
def ofParts? (negative : Bool) (n : Nat) (exponent : Int) : Option Number :=
  let x := Binary64.ofInt n
  let scaled := if exponent < 0 then some (lower x exponent.natAbs) else raise? x exponent.natAbs
  scaled.map fun x => float (x.signed negative)

/-- The number of an integer numeral; its sign, if any, is given apart. -/
def ofInteger (negative : Bool) (digits : List Char) : Option Number :=
  let n := digitsValue digits
  if !negative ∧ n < UInt64.size then some (int n)
  else if negative ∧ 0 < n ∧ n ≤ twoTo 63 then some (int (-n))
  else
    let (n, left) := absorb 0 digits
    ofParts? negative n left.length

/-- Reads a numeral: none if it is misspelt, and no number inside if it is too great for a double. -/
def read? (numeral : List Char) : Option (Option Number) := do
  let (negative, body) := match numeral with
    | '-' :: body => (true, body)
    | body => (false, body)
  let whole := body.takeWhile Char.isDigit
  if whole.isEmpty ∨ (whole.head? = some '0' ∧ 1 < whole.length) then none
  let (n, left) := absorb 0 whole
  match body.dropWhile Char.isDigit with
  | [] => return ofInteger negative whole
  | '.' :: tail =>
    let decimals := tail.takeWhile Char.isDigit
    if decimals.isEmpty then none
    let exponent ← exponent? (tail.dropWhile Char.isDigit)
    -- Digits of the whole part that are left count as zeros, those behind the point not at all.
    let (n, unread) := absorb n decimals
    return ofParts? negative n (exponent + left.length - (decimals.length - unread.length : Nat))
  | tail =>
    let exponent ← exponent? tail
    return ofParts? negative n (exponent + left.length)

/-- The text of a number. -/
def write : Number → String
  | int n => toString n
  | float x => x.jsonText

end NamedSql.Json.Number
