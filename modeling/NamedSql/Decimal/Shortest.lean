import NamedSql.Decimal.Binary64
import NamedSql.Decimal.Power
/-!
The shortest decimal text that reads back as a double. The reals that round to a number form an
interval, with its ends when the significand is even; of the multiples of powers of ten inside it,
those of the greatest power have the fewest digits, and of these the nearest to the number is
taken, of two equally near the one with an even last digit.
-/
namespace NamedSql.Binary64

/-- Decimal digits, read as a natural number, and the power of ten of the last one. -/
structure Digits where
  digits : Nat
  exponent : Int
deriving DecidableEq, Repr

/-- Twice the least real that can round to the number, in units. -/
def twiceLow (x : Binary64) : Nat :=
  let gap := twoTo (x.exponentField - 1)
  if x.fraction = 0 ∧ 1 < x.exponentField then 2 * x.units - gap / 2 else 2 * x.units - gap

/-- Twice the greatest real that can round to the number, in units. -/
def twiceHigh (x : Binary64) : Nat := 2 * x.units + twoTo (x.exponentField - 1)

/-- The number is `scaled` steps of `step`, when the steps of the grid are `10^exponent`. -/
def onGrid (x : Binary64) (exponent : Int) : Nat × Nat × Nat :=
  let scale := tenTo (-exponent).toNat
  (x.units * scale, tenTo exponent.toNat * unitsPerOne, scale)

/-- The multiple of `10^exponent` that rounds to the number and is nearest to it. -/
def hit? (x : Binary64) (exponent : Int) : Option Nat :=
  let (value, step, scale) := x.onGrid exponent
  let inside (n : Nat) : Bool :=
    let twice := 2 * n * step
    if x.fraction % 2 = 0 then x.twiceLow * scale ≤ twice && twice ≤ x.twiceHigh * scale
    else x.twiceLow * scale < twice && twice < x.twiceHigh * scale
  let below := value / step
  match inside below, inside (below + 1) with
  | true, true =>
    let twice := 2 * (value % step)
    if twice < step then some below
    else if step < twice then some (below + 1)
    else some (below + below % 2)
  | true, false => some below
  | false, true => some (below + 1)
  | false, false => none

/-- A power of ten above the number, at most a hundred times as great. -/
def powerAbove (x : Binary64) : Int :=
  (((Nat.log2 x.units : Int) - 1073) * 30103).fdiv 100000 + 1

/-- The first hit on the grids `10^exponent`, `10^(exponent - 1)`, and so on. -/
def firstHit : Nat → Binary64 → Int → Digits
  | 0, _, exponent => ⟨0, exponent⟩
  | grids + 1, x, exponent =>
    match x.hit? exponent with
    | some digits => ⟨digits, exponent⟩
    | none => firstHit grids x (exponent - 1)

/-- The fewest digits that read back as the finite number. Seventeen always do, and the search
begins at most three grids above them. -/
def shortest (x : Binary64) : Digits := if x.units = 0 then ⟨0, 0⟩ else firstHit 22 x x.powerAbove

/-- The number rounded to `count` digits, without the zeros they end in. -/
def significant (x : Binary64) (count : Nat) : Digits :=
  if x.units = 0 then ⟨0, 0⟩ else
    let rounded (exponent : Int) : Nat :=
      let (value, step, _) := x.onGrid exponent
      roundDiv value step
    let wide := x.powerAbove - count
    let exponent := (List.range 3).foldl
      (fun e _ => if tenTo count ≤ rounded e then e + 1 else e) wide
    (List.range count).foldl
      (fun d _ => if d.digits % 10 = 0 then ⟨d.digits / 10, d.exponent + 1⟩ else d)
      (Digits.mk (rounded exponent) exponent)

end NamedSql.Binary64
