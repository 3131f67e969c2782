import NamedSql.Decimal.Shortest
/-!
How the digits of a double are laid out as text: positionally while the exponent of the first digit
is in a range, else with an exponent. Each format that writes numbers is one value of `Layout`.
-/
namespace NamedSql

/-- Where positional writing ends, and how an exponent is written. -/
structure Layout where
  /-- The least exponent of the first digit that is written positionally. -/
  least : Int
  /-- The greatest exponent of the first digit that is written positionally. -/
  greatest : Int
  /-- Whether a single digit before an exponent is followed by a point and a zero. -/
  pointed : Bool
  /-- The least number of digits of an exponent. -/
  exponentWidth : Nat

namespace Layout

/-- Numbers in JSON text: `0.00001`, `1000000000000000.0`, `1e+16`, `1.5e-6`. -/
def json : Layout := ⟨-5, 15, false, 1⟩

/-- Numbers that SQLite turns into text: `0.0001`, `100.0`, `1.0e+15`. -/
def sqlite : Layout := ⟨-4, 14, true, 2⟩

/-- The text of an exponent, with its sign. -/
def exponentText (layout : Layout) (e : Int) : String :=
  let digits := toString e.natAbs
  let zeros := String.ofList (List.replicate (layout.exponentWidth - digits.length) '0')
  "e" ++ (if e < 0 then "-" else "+") ++ zeros ++ digits

/-- The text of `digits * 10^exponent`. -/
def magnitudeText (layout : Layout) (d : Binary64.Digits) : String :=
  let digits := (toString d.digits).toList
  let first := d.exponent + digits.length - 1
  if d.digits = 0 then "0.0"
  else if first < layout.least ∨ layout.greatest < first then
    let tail := digits.drop 1
    let tail := if tail.isEmpty ∧ layout.pointed then ['0'] else tail
    let point := if tail.isEmpty then [] else ['.']
    String.ofList (digits.take 1 ++ point ++ tail) ++ layout.exponentText first
  else if 0 ≤ d.exponent then
    String.ofList (digits ++ List.replicate d.exponent.toNat '0' ++ ['.', '0'])
  else if 0 ≤ first then
    let whole := (first + 1).toNat
    String.ofList (digits.take whole ++ ['.'] ++ digits.drop whole)
  else String.ofList (['0', '.'] ++ List.replicate (-first - 1).toNat '0' ++ digits)

/-- The text of digits with a sign. -/
def write (layout : Layout) (negative : Bool) (d : Binary64.Digits) : String :=
  (if negative then "-" else "") ++ layout.magnitudeText d

end Layout

/-- The text of a finite number in JSON. -/
def Binary64.jsonText (x : Binary64) : String := Layout.json.write x.isNegative x.shortest

end NamedSql
