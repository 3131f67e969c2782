import NamedSql.Decimal.Binary64
import NamedSql.Decimal.Fixed
/-!
Decimal numbers that are held in 96 bits, as the database library computes with them: their digits, without
the point, make a number below 2^96, and at most 28 of them are places. A sum with more digits than can be
held is rounded to those that can, a half to the even digit; there is none if its whole part is too great.
A change of places is never refused: it rounds a half away from zero, and adds zeros as far as they can be
held.
-/
namespace NamedSql

/-- What the digits of a number that is held are below. -/
def Decimal96.bound : Nat := twoTo 96

/-- How many places a number that is held may have. -/
def Decimal96.mostPlaces : Nat := 28

/-- The number `coefficient / 10^places`. -/
structure Decimal96 where
  coefficient : Int
  places : Nat
  small : coefficient.natAbs < Decimal96.bound
  short : places ≤ Decimal96.mostPlaces
deriving DecidableEq, Repr

namespace Decimal96

/-- The number with a coefficient and places, if it can be held. -/
def make? (coefficient : Int) (places : Nat) : Option Decimal96 :=
  if held : coefficient.natAbs < bound ∧ places ≤ mostPlaces then
    some ⟨coefficient, places, held.1, held.2⟩
  else none

def zero : Decimal96 := ⟨0, 0, Nat.two_pow_pos 96, Nat.zero_le _⟩

/-- A number with the sign of another. -/
def withSign (sign : Int) (n : Nat) : Int := if sign < 0 then -n else n

@[simp] theorem natAbs_withSign (sign : Int) (n : Nat) : (withSign sign n).natAbs = n := by
  unfold withSign
  split <;> omega

/-- How many digits have to go from the end of a number for the others to be held. -/
def excess (n : Nat) : Nat := if n < bound then 0 else excess (n / 10) + 1
termination_by n
decreasing_by
  rename_i great
  have positive : 0 < bound := Nat.two_pow_pos 96
  exact Nat.div_lt_self (by omega) (by decide)

/-- An exact number, rounded to the digits that are held. Where this carries into one digit more, the
rounded number is rounded again. -/
def round? (coefficient : Int) (places : Nat) : Option Decimal96 :=
  let cut := excess coefficient.natAbs
  let kept := Binary64.roundDiv coefficient.natAbs (tenTo cut)
  let (kept, cut) := if kept < bound then (kept, cut) else (Binary64.roundDiv kept 10, cut + 1)
  if places < cut then none else make? (withSign coefficient kept) (places - cut)

/-- The sum of two numbers. One of them is left as it is if the other is zero. -/
def add? (a b : Decimal96) : Option Decimal96 :=
  if a.coefficient = 0 then some b
  else if b.coefficient = 0 then some a
  else
    let places := max a.places b.places
    round? (a.coefficient * tenTo (places - a.places) + b.coefficient * tenTo (places - b.places))
      places

/-- A number with so many more zeros behind its places, or as many as can be held. -/
def lengthen : Nat → Decimal96 → Decimal96
  | 0, d => d
  | more + 1, d =>
    match make? (d.coefficient * 10) (d.places + 1) with
    | some longer => lengthen more longer
    | none => d

/-- A number rounded to fewer places, a half away from zero. -/
def shorten (d : Decimal96) (places : Nat) (fewer : places ≤ d.places) : Decimal96 where
  coefficient :=
    withSign d.coefficient (Decimal.roundHalfUp d.coefficient.natAbs (tenTo (d.places - places)))
  places := places
  small := by
    have smaller := Decimal.roundHalfUp_le d.coefficient.natAbs (tenTo_pos (d.places - places))
    rw [natAbs_withSign]
    exact Nat.lt_of_le_of_lt smaller d.small
  short := Nat.le_trans fewer d.short

/-- A number with so many places, or as many as can be held. -/
def rescale (d : Decimal96) (places : Nat) : Decimal96 :=
  if fewer : places ≤ d.places then d.shorten places fewer else lengthen (places - d.places) d

/-- The text of a number, with a sign of its own. -/
def text (d : Decimal96) (negative : Bool) : String :=
  Decimal.fixedText negative d.coefficient.natAbs d.places

end Decimal96

end NamedSql
