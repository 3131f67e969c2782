import NamedSql.Decimal.Power
/-!
Double-precision numbers as their 64 bits, with their values as exact multiples of the smallest
positive one, 2^-1074. In these units a finite magnitude is a natural number, and rounding a ratio
to the nearest double is one division: the bits of the result are `k * 2^52 + m` when it is
`m * 2^k` units.
-/
namespace NamedSql

/-- A double-precision number, given by its bits. -/
structure Binary64 where
  bits : UInt64
deriving DecidableEq, Repr, Inhabited

namespace Binary64

/-- Whether the sign bit is set. -/
def isNegative (x : Binary64) : Bool := twoTo 63 ≤ x.bits.toNat

/-- The bits without the sign. -/
def magnitude (x : Binary64) : Nat := x.bits.toNat % twoTo 63

/-- The exponent as it is stored. -/
def exponentField (x : Binary64) : Nat := x.magnitude / twoTo 52

/-- The stored digits of the significand. -/
def fraction (x : Binary64) : Nat := x.magnitude % twoTo 52

/-- The magnitude of the infinities; those of the numbers that are no numbers are greater. -/
def infinite : Nat := 2047 * twoTo 52

/-- Neither an infinity nor a NaN. -/
def isFinite (x : Binary64) : Bool := x.magnitude < infinite

/-- How many units make one. -/
def unitsPerOne : Nat := twoTo 1074

/-- The absolute value of a finite number, in units. -/
def units (x : Binary64) : Nat :=
  if x.exponentField = 0 then x.fraction else (twoTo 52 + x.fraction) * twoTo (x.exponentField - 1)

/-- The number with the given sign and remaining bits. -/
def ofMagnitude (negative : Bool) (magnitude : Nat) : Binary64 :=
  ⟨UInt64.ofNat (if negative then twoTo 63 + magnitude else magnitude)⟩

/-- The quotient rounded to the nearest natural number, a half to the even one. -/
def roundDiv (n d : Nat) : Nat :=
  let q := n / d
  let twice := 2 * (n % d)
  if twice < d then q else if d < twice then q + 1 else q + q % 2

/-- The double nearest to `num / den`, a tie to the even one; none when it would be infinite. -/
def ofRatio? (negative : Bool) (num den : Nat) : Option Binary64 :=
  let n := num * unitsPerOne
  let k := Nat.log2 (n / den) - 52
  let magnitude := k * twoTo 52 + roundDiv n (den * twoTo k)
  if magnitude < infinite then some (ofMagnitude negative magnitude) else none

/-- The double nearest to an integer. -/
def ofInt (n : Int) : Binary64 :=
  (ofRatio? (n < 0) n.natAbs 1).getD (ofMagnitude (n < 0) infinite)

/-- The number with a sign of its own. -/
def signed (negative : Bool) (x : Binary64) : Binary64 := ofMagnitude negative x.magnitude

/-- The double nearest to the product of two magnitudes; none when it would be infinite. -/
def multiply? (x y : Binary64) : Option Binary64 :=
  ofRatio? false (x.units * y.units) (unitsPerOne * unitsPerOne)

/-- The double nearest to the quotient of two magnitudes. -/
def divide (x y : Binary64) : Binary64 :=
  (ofRatio? false x.units y.units).getD (ofMagnitude false infinite)

/-- The double nearest to `digits * 10^exponent`, where `digits` has `width` decimal digits. What
is beyond every double is told from the width and the exponent alone. -/
def ofDecimal? (negative : Bool) (digits width : Nat) (exponent : Int) : Option Binary64 :=
  if digits = 0 ∨ exponent + width < -400 then some (ofMagnitude negative 0)
  else if 400 < exponent then none
  else if 0 ≤ exponent then ofRatio? negative (digits * tenTo exponent.toNat) 1
  else ofRatio? negative digits (tenTo (-exponent).toNat)

/-- The number with its fraction cut off, at most and at least what 64 bits hold; 0 for a NaN. -/
def toInt64 (x : Binary64) : Int64 :=
  if infinite < x.magnitude then 0
  else
    let whole : Nat := if x.isFinite then x.units / unitsPerOne else twoTo 63
    if x.isNegative then Int64.ofInt (-(min whole (twoTo 63) : Nat))
    else Int64.ofInt (min whole (twoTo 63 - 1) : Nat)

/-- The double with the value of the single-precision number whose bits are given. -/
def ofSingle (bits : UInt32) : Binary64 :=
  let n := bits.toNat
  let field := n / twoTo 23 % twoTo 8
  let fraction := n % twoTo 23
  let negative := decide (twoTo 31 ≤ n)
  if field = 255 then ofMagnitude negative (infinite + fraction * twoTo 29)
  else if field = 0 then
    (ofRatio? negative fraction (twoTo 149)).getD (ofMagnitude negative 0)
  else ofMagnitude negative ((field + 896) * twoTo 52 + fraction * twoTo 29)

end Binary64

end NamedSql
