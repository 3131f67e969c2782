import NamedSql.Decimal.Layout
import NamedSql.Decimal.Power
import NamedSql.Json.Number
import NamedSql.Value
/-!
Numbers as SQLite keeps them: 64-bit integers and doubles. A text may stand for a number, with
blanks around it; a number becomes a text of at most fifteen digits.
-/
namespace NamedSql.Sqlite

/-- A number. -/
inductive Number where
  | int (n : Int64)
  | real (x : Binary64)
deriving DecidableEq, Repr

/-- A blank of ASCII. -/
def isBlank (c : Char) : Bool := c = ' ' || (9 ≤ c.toNat && c.toNat ≤ 13)

/-- A text without the blanks around it. -/
def trim (s : List Char) : List Char := ((s.dropWhile isBlank).reverse.dropWhile isBlank).reverse

namespace Number

/-- The number of an integer numeral, whose sign is given apart. -/
def ofInteger (negative : Bool) (digits : List Char) : Number :=
  let n := Json.Number.digitsValue digits
  if negative ∧ n ≤ twoTo 63 then int (Int64.ofInt (-n))
  else if !negative ∧ n < twoTo 63 then int (Int64.ofInt n)
  else real ((Binary64.ofDecimal? negative n digits.length 0).getD
    (.ofMagnitude negative Binary64.infinite))

/-- The number that a numeral writes. Digits may be missing on either side of the point, but not on
both. -/
def ofText? (s : List Char) : Option Number := do
  let (negative, body) := match trim s with
    | '-' :: body => (true, body)
    | '+' :: body => (false, body)
    | body => (false, body)
  let whole := body.takeWhile Char.isDigit
  let rest := body.dropWhile Char.isDigit
  let (decimals, tail) := match rest with
    | '.' :: tail => (tail.takeWhile Char.isDigit, tail.dropWhile Char.isDigit)
    | tail => ([], tail)
  let digits := whole ++ decimals
  if digits.isEmpty then none
  if rest.isEmpty then return ofInteger negative whole
  let exponent ← Json.Number.exponent? tail
  return real ((Binary64.ofDecimal? negative (Json.Number.digitsValue digits) digits.length
    (exponent - decimals.length)).getD (.ofMagnitude negative Binary64.infinite))

/-- The integer that a number is equal to. A double counts only strictly inside the range. -/
def toInt? : Number → Option Int64
  | int n => some n
  | real x =>
    let whole := x.units / Binary64.unitsPerOne
    if x.isFinite ∧ x.units % Binary64.unitsPerOne = 0 ∧ whole < twoTo 63 - 1 then
      some (Int64.ofInt (if x.isNegative then -whole else whole))
    else none

/-- How an integer compares with a number. -/
def compareInt (n : Int64) : Number → Ordering
  | int m => compare n.toInt m.toInt
  | real x =>
    if !x.isFinite then if x.isNegative then .gt else .lt
    else
      let units : Int := if x.isNegative then -x.units else x.units
      compare (n.toInt * Binary64.unitsPerOne) units

end Number

/-- The text that a value becomes in a column of texts. -/
def textOf? : Value → Option String
  | .null => none
  | .bool b => some (if b then "1" else "0")
  | .int n => some (toString n.toInt)
  | .float x =>
    if Binary64.infinite < x.magnitude then none
    else if !x.isFinite then some (if x.isNegative then "-Inf" else "Inf")
    else some (Layout.sqlite.write x.isNegative (x.significant 15))
  | .text s => some s

/-- The number that a value is, or stands for. -/
def numberOf? : Value → Option Number
  | .null => none
  | .bool b => some (.int (if b then 1 else 0))
  | .int n => some (.int n)
  | .float x => if Binary64.infinite < x.magnitude then none else some (.real x)
  | .text s => Number.ofText? s.toList

end NamedSql.Sqlite
