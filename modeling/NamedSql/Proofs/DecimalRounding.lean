import Mathlib.Data.Rat.Cast.Order
import Mathlib.Tactic.FieldSimp
import Mathlib.Tactic.Linarith
import Mathlib.Tactic.Positivity
import Mathlib.Tactic.Ring
import NamedSql.Decimal.Decimal96
import NamedSql.Proofs.IntegerRounding

/-! What decimal numbers of 96 bits are worth, and what becomes of sums that are worth something else than
any of them. An exact number is cut after the least number of digits that lets the rounded rest be held, so a
number that can be held is never changed, and one that cannot fills the 96 bits. -/
namespace NamedSql

/-- The number that is held. -/
def Decimal96.value (d : Decimal96) : ℚ := d.coefficient / 10 ^ d.places

namespace DecimalRounding
open Binary64 Decimal96 IntegerRounding

variable {n p q cut k places : Nat} {a b d : Decimal96} {x : ℚ}

theorem tenTo_eq (n : Nat) : tenTo n = 10 ^ n := rfl

theorem tenTo_add (a b : Nat) : tenTo (a + b) = tenTo a * tenTo b := Nat.pow_add 10 a b

theorem tenTo_succ (n : Nat) : tenTo (n + 1) = 10 * tenTo n := by
  rw [tenTo_add, Nat.mul_comm]
  rfl

theorem mul_tenTo_succ (k n : Nat) : k * tenTo (n + 1) = 10 * (k * tenTo n) := by
  rw [tenTo_succ, Nat.mul_left_comm]

theorem tenTo_le (le : p ≤ q) : tenTo p ≤ tenTo q := Nat.pow_le_pow_right (by decide) le

theorem cast_tenTo (n : Nat) : ((tenTo n : Nat) : ℚ) = 10 ^ n := by
  rw [tenTo_eq, Nat.cast_pow, Nat.cast_ofNat]

theorem bound_eq : bound = 79228162514264337593543950336 := rfl

/-- Whether a number can be held with at most so many places. -/
def Held (x : ℚ) (places : Nat) : Prop :=
  ∃ (c : ℤ) (p : Nat), c.natAbs < bound ∧ p ≤ mostPlaces ∧ p ≤ places ∧ x = c / 10 ^ p

theorem held_value (d : Decimal96) : Held d.value d.places :=
  ⟨d.coefficient, d.places, d.small, d.short, Nat.le_refl _, rfl⟩

theorem eq_of_value (same : a.value = b.value) (places : a.places = b.places) : a = b := by
  obtain ⟨c, s, _, _⟩ := a
  obtain ⟨e, t, _, _⟩ := b
  simp only at places
  subst places
  have digits : c = e := by
    have cast := (div_left_inj' (show (10 : ℚ) ^ s ≠ 0 by positivity)).mp same
    exact_mod_cast cast
  subst digits
  rfl

theorem Held.mono (held : Held x p) (le : p ≤ q) : Held x q := by
  obtain ⟨c, s, small, short, within, same⟩ := held
  exact ⟨c, s, small, short, Nat.le_trans within le, same⟩

theorem Held.neg (held : Held x p) : Held (-x) p := by
  obtain ⟨c, s, small, short, within, same⟩ := held
  exact ⟨-c, s, by omega, short, within, by rw [same, Int.cast_neg, neg_div]⟩

/-- The digits that are in excess are as few as possible. -/
theorem excess_least (n : Nat) :
    n / tenTo (excess n) < bound ∧ ∀ s < excess n, bound ≤ n / tenTo s := by
  induction n using excess.induct with
  | case1 n small =>
    rw [excess, if_pos small]
    exact ⟨by simpa [tenTo_eq] using small, by simp⟩
  | case2 n great ih =>
    have next (s : Nat) : n / tenTo (s + 1) = n / 10 / tenTo s := by
      rw [tenTo_succ, Nat.div_div_eq_div_mul]
    rw [excess, if_neg great]
    refine ⟨by rw [next]; exact ih.1, ?_⟩
    intro s less
    cases s with
    | zero => simpa [tenTo_eq] using great
    | succ s => rw [next]; exact ih.2 s (by omega)

/-- What is less than half a unit below an even bound is rounded to less than it, and half a unit is not. -/
theorem roundDiv_lt_iff {bound d : Nat} (even : bound % 2 = 0) (positive : 0 < d) :
    roundDiv n d < bound ↔ 2 * n + d < 2 * (bound * d) := by
  obtain ⟨above, below⟩ := roundDiv_near n positive
  constructor
  · intro less
    by_cases last : roundDiv n d + 1 = bound
    · have next : bound * d = roundDiv n d * d + d := by rw [← last, Nat.add_mul, Nat.one_mul]
      have noTie : 2 * n ≠ 2 * (roundDiv n d * d) + d := by
        intro tie
        have := roundDiv_even n positive (.inl tie)
        omega
      omega
    · have room : (roundDiv n d + 2) * d ≤ bound * d := Nat.mul_le_mul_right _ (by omega)
      rw [Nat.add_mul] at room
      omega
  · intro less
    by_contra great
    have least : bound * d ≤ roundDiv n d * d := Nat.mul_le_mul_right _ (by omega)
    omega

/-- What is less than half a unit is rounded away. -/
private theorem roundDiv_add_small {d r : Nat} (small : 2 * r < d) : roundDiv (k * d + r) d = k := by
  have positive : 0 < d := by omega
  have rest : (k * d + r) % d = r := by
    rw [Nat.mul_add_mod_self_right, Nat.mod_eq_of_lt (by omega)]
  have quotient : (k * d + r) / d = k := by
    rw [Nat.mul_comm, Nat.mul_add_div positive, Nat.div_eq_of_lt (by omega), Nat.add_zero]
  simp only [roundDiv, rest, quotient, if_pos small]

private theorem held_iff (n s : Nat) :
    roundDiv n (tenTo s) < bound ↔ 2 * n + tenTo s < 2 * (bound * tenTo s) :=
  roundDiv_lt_iff (by rw [bound_eq]) (tenTo_pos s)

/-- A number that is cut after the fewest digits that let the rounded rest be held. -/
structure Cut (n p cut : Nat) (d : Decimal96) : Prop where
  places : d.places + cut = p
  coefficient : d.coefficient = roundDiv n (tenTo cut)
  fits : 2 * n + tenTo cut < 2 * (bound * tenTo cut)
  least : ∀ s < cut, 2 * (bound * tenTo s) ≤ 2 * n + tenTo s

private theorem roundDiv_bound : roundDiv bound 10 = 7922816251426433759354395034 := rfl

/-- Rounded to one digit less than the 96 bits have room for, what reaches their bound fills them. -/
private theorem roundDiv_filled {step : Nat} (least : 2 * (bound * step) ≤ 2 * n + step)
    (positive : 0 < step) : roundDiv bound 10 ≤ roundDiv n (10 * step) := by
  obtain ⟨above, _⟩ := roundDiv_near n (show 0 < 10 * step by omega)
  have whole : roundDiv n (10 * step) * (10 * step) = 10 * roundDiv n (10 * step) * step := by
    rw [← Nat.mul_assoc, Nat.mul_comm (roundDiv n (10 * step)) 10]
  have scaled : 2 * bound * step ≤ (20 * roundDiv n (10 * step) + 11) * step := by
    rw [Nat.add_mul, Nat.mul_assoc, Nat.mul_assoc]
    rw [whole, Nat.mul_assoc] at above
    omega
  have unscaled := Nat.le_of_mul_le_mul_right scaled positive
  rw [bound_eq] at unscaled
  rw [roundDiv_bound]
  omega

/-- A carry into one digit more rounds as if that digit had been cut at once. -/
private theorem roundDiv_carried {step : Nat} (least : 2 * (bound * step) ≤ 2 * n + step)
    (below : n < bound * step) (positive : 0 < step) :
    roundDiv n (10 * step) = roundDiv bound 10 := by
  refine Nat.le_antisymm ?_ (roundDiv_filled least positive)
  obtain ⟨_, under⟩ := roundDiv_near n (show 0 < 10 * step by omega)
  have whole : roundDiv n (10 * step) * (10 * step) = 10 * roundDiv n (10 * step) * step := by
    rw [← Nat.mul_assoc, Nat.mul_comm (roundDiv n (10 * step)) 10]
  have scaled : 20 * roundDiv n (10 * step) * step < (2 * bound + 10) * step := by
    rw [Nat.add_mul, Nat.mul_assoc, Nat.mul_assoc]
    rw [whole, Nat.mul_assoc] at under
    omega
  have unscaled := Nat.lt_of_mul_lt_mul_right scaled
  rw [bound_eq] at unscaled
  rw [roundDiv_bound]
  omega

private theorem withSign_natCast (n k : Nat) : withSign n k = k := by
  simp [withSign]

/-- Rounding cuts after the fewest digits that let the rounded rest be held. -/
theorem round?_cut (n p : Nat) :
    ∃ cut, 2 * n + tenTo cut < 2 * (bound * tenTo cut) ∧
      (∀ s < cut, 2 * (bound * tenTo s) ≤ 2 * n + tenTo s) ∧
      round? n p = if p < cut then none else make? (roundDiv n (tenTo cut)) (p - cut) := by
  obtain ⟨within, least⟩ := excess_least n
  have positive := tenTo_pos (excess n)
  have whole (s : Nat) (less : s < excess n) : 2 * (bound * tenTo s) ≤ 2 * n + tenTo s := by
    have atLeast := (Nat.le_div_iff_mul_le (tenTo_pos s)).mp (least s less)
    omega
  by_cases kept : roundDiv n (tenTo (excess n)) < bound
  · refine ⟨excess n, (held_iff n _).mp kept, whole, ?_⟩
    simp [round?, kept, withSign_natCast]
  · have tie : 2 * (bound * tenTo (excess n)) ≤ 2 * n + tenTo (excess n) :=
      Nat.le_of_not_lt fun less => kept ((held_iff n _).mpr less)
    have below : n < bound * tenTo (excess n) := (Nat.div_lt_iff_lt_mul positive).mp within
    have full : roundDiv n (tenTo (excess n)) = bound := by
      rcases roundDiv_cases n (tenTo (excess n)) with ⟨same, _⟩ | ⟨next, _⟩
      · omega
      · omega
    refine ⟨excess n + 1, ?_, ?_, ?_⟩
    · rw [mul_tenTo_succ, tenTo_succ]
      have some : 1 * tenTo (excess n) ≤ bound * tenTo (excess n) :=
        Nat.mul_le_mul_right _ (by rw [bound_eq]; decide)
      omega
    · intro s less
      by_cases last : s = excess n
      · rw [last]
        exact tie
      · exact whole s (by omega)
    · have again := roundDiv_carried tie below positive
      rw [tenTo_succ, again]
      simp [round?, full, withSign_natCast]

/-- What rounding comes to: there is no number if not even all places are digits enough to cut. -/
theorem round?_cases (n : Nat) (short : p ≤ mostPlaces) :
    (round? n p = none ∧ 2 * (bound * tenTo p) ≤ 2 * n + tenTo p) ∨
      ∃ d cut, round? n p = some d ∧ Cut n p cut d := by
  obtain ⟨cut, fits, least, result⟩ := round?_cut n p
  by_cases beyond : p < cut
  · rw [if_pos beyond] at result
    exact .inl ⟨result, least p beyond⟩
  · rw [if_neg beyond] at result
    have small := (held_iff n cut).mpr fits
    have held : (roundDiv n (tenTo cut) : ℤ).natAbs < bound ∧ p - cut ≤ mostPlaces :=
      ⟨by rwa [Int.natAbs_natCast], by omega⟩
    rw [make?, dif_pos held] at result
    exact .inr ⟨_, cut, result, by simp only; omega, rfl, fits, least⟩

/-- Only one number is what a number is cut to. -/
theorem round?_of_cut (made : Cut n p cut d) : round? n p = some d := by
  obtain ⟨other, fits, least, result⟩ := round?_cut n p
  have same : other = cut := by
    rcases Nat.lt_trichotomy other cut with less | same | more
    · have := made.least other less
      omega
    · exact same
    · have := least cut more
      have := made.fits
      omega
  have within := made.places
  have places : p - cut = d.places := by omega
  subst same
  rw [result, if_neg (by omega), ← made.coefficient, places, make?, dif_pos ⟨d.small, d.short⟩]

/-- Two numbers with the same places are as far apart as their digits. -/
private theorem abs_div_sub_div_le {n kept unit p : Nat} (above : 2 * n ≤ 2 * kept + unit)
    (below : 2 * kept ≤ 2 * n + unit) : |(kept : ℚ) / 10 ^ p - n / 10 ^ p| ≤ (unit : ℚ) / 2 / 10 ^ p := by
  have aboveQ : (2 : ℚ) * n ≤ 2 * kept + unit := by exact_mod_cast above
  have belowQ : (2 : ℚ) * kept ≤ 2 * n + unit := by exact_mod_cast below
  rw [← sub_div, abs_div, abs_of_pos (show (0 : ℚ) < 10 ^ p by positivity)]
  apply div_le_div_of_nonneg_right _ (by positivity)
  rw [abs_le]
  constructor <;> linarith

namespace Cut

theorem nonneg (made : Cut n p cut d) : 0 ≤ d.coefficient := by
  rw [made.coefficient]
  exact Int.natCast_nonneg _

/-- A number that digits were cut from fills the 96 bits. -/
theorem full (made : Cut n p cut d) (some : 0 < cut) : (bound : ℤ) ≤ 10 * d.coefficient := by
  obtain ⟨shorter, rfl⟩ : ∃ shorter, cut = shorter + 1 := ⟨cut - 1, by omega⟩
  have filled := roundDiv_filled (made.least shorter (by omega)) (tenTo_pos shorter)
  rw [roundDiv_bound] at filled
  rw [made.coefficient, tenTo_succ, bound_eq]
  omega

/-- With more digits cut, the rounded rest is held all the more. -/
theorem held_of_le (made : Cut n p cut d) {s : Nat} (more : cut ≤ s) : roundDiv n (tenTo s) < bound := by
  rw [held_iff]
  obtain ⟨rest, rfl⟩ : ∃ rest, s = cut + rest := ⟨s - cut, by omega⟩
  have fits := made.fits
  have positive := tenTo_pos rest
  have scaled := Nat.mul_lt_mul_of_pos_right fits positive
  rw [tenTo_add]
  have one : 2 * n * 1 ≤ 2 * n * tenTo rest := Nat.mul_le_mul_left _ positive
  have same : 2 * (bound * tenTo cut) * tenTo rest = 2 * (bound * (tenTo cut * tenTo rest)) := by
    rw [Nat.mul_assoc, Nat.mul_assoc]
  rw [Nat.add_mul, same] at scaled
  omega

theorem value_eq (made : Cut n p cut d) :
    d.value = ((roundDiv n (tenTo cut) * tenTo cut : Nat) : ℚ) / 10 ^ p := by
  rw [Decimal96.value, made.coefficient, ← made.places, pow_add, Nat.cast_mul, cast_tenTo, Int.cast_natCast,
    mul_div_mul_right _ _ (by positivity)]

/-- Cutting moves a number by at most half a unit of the last place that is left. -/
theorem near (made : Cut n p cut d) : |d.value - n / 10 ^ p| ≤ 1 / 2 / 10 ^ d.places := by
  obtain ⟨above, below⟩ := roundDiv_near n (tenTo_pos cut)
  have unit : (1 : ℚ) / 2 / 10 ^ d.places = (tenTo cut : ℚ) / 2 / 10 ^ p := by
    rw [← made.places, pow_add, cast_tenTo]
    field_simp
  rw [unit, made.value_eq]
  exact abs_div_sub_div_le above below

theorem exact_iff (made : Cut n p cut d) : d.value = n / 10 ^ p ↔ tenTo cut ∣ n := by
  rw [made.value_eq, div_left_inj' (by positivity), Nat.cast_inj, roundDiv_exact_iff (tenTo_pos cut)]

/-- Nothing is lost of a number that has few enough digits in front of its zeros. -/
theorem exact_of_zeros (made : Cut n p cut d) {m s : Nat} (zeros : n = m * tenTo s) (small : m < bound) :
    d.value = n / 10 ^ p := by
  rw [made.exact_iff]
  have enough : cut ≤ s := by
    by_contra more
    have least := made.least s (by omega)
    have most : (m + 1) * tenTo s ≤ bound * tenTo s := Nat.mul_le_mul_right _ small
    have positive := tenTo_pos s
    rw [Nat.add_mul, ← zeros] at most
    omega
  rw [zeros]
  exact Dvd.dvd.mul_left (Nat.pow_dvd_pow 10 enough) m

end Cut

/-- A number that had to be rounded, as a number of so many places that is none of those that are held. -/
structure Shortened (n p : Nat) (d : Decimal96) : Prop where
  nonneg : 0 ≤ d.coefficient
  full : (bound : ℤ) ≤ 10 * d.coefficient
  shorter : d.places < p
  near : |d.value - n / 10 ^ p| ≤ 1 / 2 / 10 ^ d.places
  great : bound ≤ n
  below : 2 * (n + 1) + tenTo p ≤ 2 * (bound * tenTo p)
  inexact : ∀ m s, m < bound → n ≠ m * tenTo s

theorem Cut.shortened (made : Cut n p cut d) (other : d.value ≠ n / 10 ^ p) : Shortened n p d := by
  have some : 0 < cut := by
    apply Nat.pos_of_ne_zero
    rintro rfl
    exact other (made.exact_iff.mpr (one_dvd n))
  have places := made.places
  obtain ⟨q, rfl⟩ : ∃ q, p = q + 1 := ⟨p - 1, by omega⟩
  refine ⟨made.nonneg, made.full some, by omega, made.near, ?_, ?_, ?_⟩
  · have least := made.least 0 some
    rw [tenTo_eq, Nat.pow_zero, Nat.mul_one] at least
    omega
  · have fits := (held_iff n (q + 1)).mp (made.held_of_le (show cut ≤ q + 1 by omega))
    -- Both sides are even, so there is room for one more.
    rw [mul_tenTo_succ, tenTo_succ] at fits ⊢
    omega
  · intro m s small zeros
    exact other (made.exact_of_zeros zeros small)

/-- What a sum of two numbers that are not negative comes to. -/
inductive Sum (x : ℚ) (p : Nat) : Option Decimal96 → Prop
  | beyond (great : (bound : ℚ) - 1 / 2 ≤ x) : Sum x p none
  | exact (d : Decimal96) (nonneg : 0 ≤ d.coefficient) (short : d.places ≤ p) (same : d.value = x) :
      Sum x p (some d)
  | rounded (n : Nat) (d : Decimal96) (written : x = n / 10 ^ p) (shortened : Shortened n p d) :
      Sum x p (some d)

private theorem round?_sum (n : Nat) (short : p ≤ mostPlaces) : Sum (n / 10 ^ p) p (round? n p) := by
  rcases round?_cases n short with ⟨none, great⟩ | ⟨d, cut, some, made⟩
  · rw [none]
    refine .beyond ?_
    have cast : ((2 * (bound * tenTo p) : Nat) : ℚ) ≤ ((2 * n + tenTo p : Nat) : ℚ) := Nat.cast_le.mpr great
    simp only [Nat.cast_mul, Nat.cast_add, cast_tenTo, Nat.cast_ofNat] at cast
    rw [le_div_iff₀ (by positivity)]
    linarith
  · rw [some]
    have places := made.places
    by_cases same : d.value = n / 10 ^ p
    · exact .exact d made.nonneg (by omega) same
    · exact .rounded n d rfl (made.shortened same)

/-- The exact sum, with the places of the number that has more of them. -/
private def aligned (a b : Decimal96) : Nat :=
  a.coefficient.toNat * tenTo (b.places - a.places) + b.coefficient.toNat

private theorem aligned_value (first : 0 ≤ a.coefficient) (second : 0 ≤ b.coefficient)
    (order : a.places ≤ b.places) : (aligned a b : ℚ) / 10 ^ b.places = a.value + b.value := by
  have castFirst : ((a.coefficient.toNat : Nat) : ℚ) = a.coefficient := by
    exact_mod_cast Int.toNat_of_nonneg first
  have castSecond : ((b.coefficient.toNat : Nat) : ℚ) = b.coefficient := by
    exact_mod_cast Int.toNat_of_nonneg second
  have split : (10 : ℚ) ^ b.places = 10 ^ (b.places - a.places) * 10 ^ a.places := by
    rw [← pow_add, Nat.sub_add_cancel order]
  rw [aligned, Nat.cast_add, Nat.cast_mul, cast_tenTo, castFirst, castSecond, add_div, Decimal96.value,
    Decimal96.value]
  congr 1
  rw [split]
  field_simp

private theorem add?_aligned (first : 0 ≤ a.coefficient) (second : 0 ≤ b.coefficient)
    (order : a.places ≤ b.places) (someFirst : a.coefficient ≠ 0) (someSecond : b.coefficient ≠ 0) :
    a.add? b = round? (aligned a b) b.places := by
  have sum : a.coefficient * tenTo (b.places - a.places) + b.coefficient = (aligned a b : ℤ) := by
    rw [aligned, Nat.cast_add, Nat.cast_mul, Int.toNat_of_nonneg first, Int.toNat_of_nonneg second]
  have unit : (tenTo 0 : ℤ) = 1 := rfl
  rw [add?, if_neg someFirst, if_neg someSecond]
  simp only [Nat.max_eq_right order, Nat.sub_self, unit, mul_one, sum]

theorem add?_sum (first : 0 ≤ a.coefficient) (second : 0 ≤ b.coefficient) (order : a.places ≤ b.places) :
    Sum (a.value + b.value) b.places (a.add? b) := by
  by_cases zeroFirst : a.coefficient = 0
  · rw [add?, if_pos zeroFirst]
    exact .exact b second (Nat.le_refl _) (by simp [Decimal96.value, zeroFirst])
  by_cases zeroSecond : b.coefficient = 0
  · rw [add?, if_neg zeroFirst, if_pos zeroSecond]
    exact .exact a first order (by simp [Decimal96.value, zeroSecond])
  rw [add?_aligned first second order zeroFirst zeroSecond, ← aligned_value first second order]
  exact round?_sum _ b.short

/-- A sum that fills the 96 bits is left as it is by a number that is far behind its last place. -/
theorem add?_full (full : (bound : ℤ) ≤ 10 * a.coefficient) (second : 0 ≤ b.coefficient)
    (order : a.places ≤ b.places) (behind : 2 * b.coefficient.toNat < tenTo (b.places - a.places)) :
    a.add? b = some a := by
  have first : 0 < a.coefficient := by
    rw [bound_eq] at full
    omega
  by_cases zero : b.coefficient = 0
  · rw [add?, if_neg (by omega), if_pos zero]
  rw [add?_aligned (by omega) second order (by omega) zero]
  obtain ⟨kept, same⟩ := Int.eq_ofNat_of_zero_le (show 0 ≤ a.coefficient by omega)
  obtain ⟨more, gap⟩ : ∃ more, b.places - a.places = more := ⟨_, rfl⟩
  have small := a.small
  rw [gap] at behind
  have sum : aligned a b = kept * tenTo more + b.coefficient.toNat := by
    rw [aligned, same, Int.toNat_natCast, gap]
  have room : (kept + 1) * tenTo more ≤ bound * tenTo more := Nat.mul_le_mul_right _ (by omega)
  rw [Nat.add_mul, Nat.one_mul] at room
  have made : Cut (aligned a b) b.places more a := by
    refine ⟨by omega, ?_, by omega, ?_⟩
    · rw [sum, roundDiv_add_small behind, same]
    · intro s less
      have digit : bound * tenTo s ≤ kept * tenTo (s + 1) := by
        rw [mul_tenTo_succ, ← Nat.mul_assoc]
        exact Nat.mul_le_mul_right _ (by omega)
      have rest : kept * tenTo (s + 1) ≤ kept * tenTo more := Nat.mul_le_mul_left _ (tenTo_le less)
      omega
  exact round?_of_cut made

/-- More places leave the number the same, and the digits too if there is no room for one more. -/
theorem lengthen_same (more : Nat) (d : Decimal96) :
    (lengthen more d).value = d.value ∧ (lengthen more d).places ≤ d.places + more ∧
      (0 ≤ d.coefficient → 0 ≤ (lengthen more d).coefficient) := by
  induction more generalizing d with
  | zero => exact ⟨rfl, Nat.le_refl _, id⟩
  | succ more ih =>
    by_cases room : (d.coefficient * 10).natAbs < bound ∧ d.places + 1 ≤ mostPlaces
    · obtain ⟨same, short, sign⟩ := ih ⟨d.coefficient * 10, d.places + 1, room.1, room.2⟩
      rw [lengthen, make?, dif_pos room]
      refine ⟨same.trans ?_, by simp only at short ⊢; omega, fun nonneg => sign (by simp only; omega)⟩
      rw [Decimal96.value, Decimal96.value, Int.cast_mul, pow_succ, Int.cast_ofNat,
        mul_div_mul_right _ _ (by norm_num)]
    · rw [lengthen, make?, dif_neg room]
      exact ⟨rfl, Nat.le_add_right _ _, id⟩

theorem lengthen_full (full : (bound : ℤ) ≤ 10 * d.coefficient) (more : Nat) : lengthen more d = d := by
  cases more with
  | zero => rfl
  | succ more =>
    have room : ¬((d.coefficient * 10).natAbs < bound ∧ d.places + 1 ≤ mostPlaces) := by omega
    rw [lengthen, make?, dif_neg room]

private theorem roundHalfUp_near (n : Nat) {d : Nat} (positive : 0 < d) :
    2 * n ≤ 2 * (Decimal.roundHalfUp n d * d) + d ∧ 2 * (Decimal.roundHalfUp n d * d) ≤ 2 * n + d := by
  have whole := Nat.div_add_mod (2 * n + d) (2 * d)
  have rest := Nat.mod_lt (2 * n + d) (show 0 < 2 * d by omega)
  have same : 2 * d * ((2 * n + d) / (2 * d)) = 2 * (Decimal.roundHalfUp n d * d) := by
    rw [Decimal.roundHalfUp, Nat.mul_assoc, Nat.mul_comm d]
  omega

private theorem roundHalfUp_mul (n : Nat) {d : Nat} (positive : 0 < d) :
    Decimal.roundHalfUp (n * d) d = n := by
  have split : 2 * (n * d) + d = n * (2 * d) + d := by rw [Nat.mul_left_comm]
  rw [Decimal.roundHalfUp, split, Nat.mul_comm n, Nat.mul_add_div (by omega), Nat.div_eq_of_lt (by omega),
    Nat.add_zero]

section Shorten
variable (nonneg : 0 ≤ d.coefficient) (fewer : places ≤ d.places)
include nonneg

private theorem shorten_coefficient : (d.shorten places fewer).coefficient =
    Decimal.roundHalfUp d.coefficient.toNat (tenTo (d.places - places)) := by
  have magnitude : d.coefficient.natAbs = d.coefficient.toNat := by omega
  change withSign d.coefficient _ = _
  rw [withSign, if_neg (by omega), magnitude]

theorem shorten_nonneg : 0 ≤ (d.shorten places fewer).coefficient := by
  rw [shorten_coefficient nonneg]
  exact Int.natCast_nonneg _

private theorem shorten_value : (d.shorten places fewer).value =
    ((Decimal.roundHalfUp d.coefficient.toNat (tenTo (d.places - places)) *
      tenTo (d.places - places) : Nat) : ℚ) / 10 ^ d.places := by
  have split : (10 : ℚ) ^ d.places = 10 ^ places * 10 ^ (d.places - places) := by
    rw [← pow_add, Nat.add_sub_cancel' fewer]
  rw [Decimal96.value, shorten_coefficient nonneg, Int.cast_natCast, Nat.cast_mul, cast_tenTo, split,
    mul_div_mul_right _ _ (by positivity)]
  rfl

private theorem value_toNat : d.value = (d.coefficient.toNat : ℚ) / 10 ^ d.places := by
  have cast : ((d.coefficient.toNat : Nat) : ℚ) = d.coefficient := by
    exact_mod_cast Int.toNat_of_nonneg nonneg
  rw [Decimal96.value, cast]

/-- Fewer places move a number by at most half a unit of the last of them. -/
theorem shorten_near : |(d.shorten places fewer).value - d.value| ≤ 1 / 2 / 10 ^ places := by
  obtain ⟨above, below⟩ := roundHalfUp_near d.coefficient.toNat (tenTo_pos (d.places - places))
  have unit : (1 : ℚ) / 2 / 10 ^ places = (tenTo (d.places - places) : ℚ) / 2 / 10 ^ d.places := by
    have split : (10 : ℚ) ^ d.places = 10 ^ places * 10 ^ (d.places - places) := by
      rw [← pow_add, Nat.add_sub_cancel' fewer]
    rw [split, cast_tenTo]
    field_simp
  rw [unit, shorten_value nonneg, value_toNat nonneg]
  exact abs_div_sub_div_le above below

/-- They do not move it if they are enough for it. -/
theorem shorten_exact {c : ℤ} (enough : d.value = c / 10 ^ places) :
    (d.shorten places fewer).value = d.value := by
  obtain ⟨more, gap⟩ : ∃ more, d.places - places = more := ⟨_, rfl⟩
  have split : (10 : ℚ) ^ d.places = 10 ^ places * 10 ^ more := by
    rw [← pow_add, ← gap, Nat.add_sub_cancel' fewer]
  have digits : (d.coefficient.toNat : ℤ) = c * tenTo more := by
    rw [value_toNat nonneg, split, div_eq_div_iff (by positivity) (by positivity)] at enough
    have cancelled : (d.coefficient.toNat : ℚ) = c * 10 ^ more := by
      apply mul_right_cancel₀ (show (10 : ℚ) ^ places ≠ 0 by positivity)
      linarith
    rw [← cast_tenTo] at cancelled
    exact_mod_cast cancelled
  have sign : 0 ≤ c := by
    have positive : (0 : ℤ) < tenTo more := by exact_mod_cast tenTo_pos more
    by_contra negative
    have product := mul_neg_of_neg_of_pos (not_le.mp negative) positive
    omega
  obtain ⟨kept, rfl⟩ := Int.eq_ofNat_of_zero_le sign
  have whole : d.coefficient.toNat = kept * tenTo more := by exact_mod_cast digits
  rw [shorten_value nonneg, value_toNat nonneg, gap, whole, roundHalfUp_mul _ (tenTo_pos more)]

end Shorten

/-- What a number with other places is: the same as far as there is room for them, or rounded to them. -/
structure Rescaled (d : Decimal96) (places : Nat) (r : Decimal96) : Prop where
  nonneg : 0 ≤ r.coefficient
  short : r.places ≤ places
  near : (r.value = d.value ∧ ((bound : ℤ) ≤ 10 * d.coefficient → r = d)) ∨
    (places < d.places ∧ r.places = places ∧ |r.value - d.value| ≤ 1 / 2 / 10 ^ places)
  exact : Held d.value places → r.value = d.value

theorem rescale_rescaled (nonneg : 0 ≤ d.coefficient) (places : Nat) :
    Rescaled d places (d.rescale places) := by
  by_cases fewer : places ≤ d.places
  · rw [rescale, dif_pos fewer]
    have exact : Held d.value places → (d.shorten places fewer).value = d.value := by
      rintro ⟨c, s, _, _, within, same⟩
      refine shorten_exact nonneg fewer (c := c * 10 ^ (places - s)) ?_
      have split : (10 : ℚ) ^ places = 10 ^ s * 10 ^ (places - s) := by
        rw [← pow_add, Nat.add_sub_cancel' within]
      rw [same, split, Int.cast_mul, Int.cast_pow, Int.cast_ofNat, mul_div_mul_right _ _ (by positivity)]
    refine ⟨shorten_nonneg nonneg fewer, Nat.le_refl _, ?_, exact⟩
    by_cases all : places = d.places
    · subst all
      have same := exact (held_value d)
      exact .inl ⟨same, fun _ => eq_of_value same rfl⟩
    · exact .inr ⟨by omega, rfl, shorten_near nonneg fewer⟩
  · rw [rescale, dif_neg fewer]
    obtain ⟨same, short, sign⟩ := lengthen_same (places - d.places) d
    exact ⟨sign nonneg, by omega, .inl ⟨same, fun full => lengthen_full full _⟩, fun _ => same⟩

namespace Shortened

variable (made : Shortened n p d) (least : n / 10 ^ p ≤ x) (less : x < (n + 1) / 10 ^ p)
include made least less

/-- Digits behind those that were rounded do not bring a number back to one that can be held. -/
theorem not_held : ¬Held x k := by
  rintro ⟨c, s, small, _, _, rfl⟩
  have sign : 0 ≤ c := by
    have positive : (0 : ℚ) ≤ c / 10 ^ s := le_trans (by positivity) least
    rw [le_div_iff₀ (by positivity), zero_mul] at positive
    exact_mod_cast positive
  obtain ⟨m, rfl⟩ := Int.eq_ofNat_of_zero_le sign
  have smaller : m < bound := small
  have great := made.great
  have lower : n * tenTo s ≤ m * tenTo p := by
    rw [Int.cast_natCast, div_le_div_iff₀ (by positivity) (by positivity),
      ← cast_tenTo, ← cast_tenTo] at least
    exact_mod_cast least
  have upper : m * tenTo p < (n + 1) * tenTo s := by
    rw [Int.cast_natCast, div_lt_div_iff₀ (by positivity) (by positivity),
      ← cast_tenTo, ← cast_tenTo] at less
    exact_mod_cast less
  have order : s ≤ p := by
    by_contra more
    have product : m * tenTo p < n * tenTo s :=
      Nat.mul_lt_mul_of_lt_of_le (by omega) (tenTo_le (by omega)) (tenTo_pos s)
    omega
  -- With as many places as the rounded number had, it is that number and has zeros at its end.
  obtain ⟨more, rfl⟩ := Nat.exists_eq_add_of_le order
  have split : m * tenTo (s + more) = m * tenTo more * tenTo s := by
    rw [tenTo_add, Nat.mul_assoc, Nat.mul_comm (tenTo s)]
  rw [split] at lower upper
  have atLeast := Nat.le_of_mul_le_mul_right lower (tenTo_pos s)
  have atMost := Nat.lt_of_mul_lt_mul_right upper
  exact made.inexact m more smaller (by omega)

theorem value_near : |d.value - x| < 6 / 10 / 10 ^ d.places := by
  have near := made.near
  have digit : (1 : ℚ) / 10 ^ p ≤ 1 / 10 / 10 ^ d.places := by
    rw [div_div, ← pow_succ']
    exact one_div_le_one_div_of_le (by positivity) (pow_le_pow_right₀ (by norm_num) made.shorter)
  rw [add_div] at less
  have parts : (6 : ℚ) / 10 / 10 ^ d.places = 1 / 2 / 10 ^ d.places + 1 / 10 / 10 ^ d.places := by ring
  rw [parts, abs_lt]
  rw [abs_le] at near
  constructor <;> linarith

/-- With other places it is still near. -/
theorem rescaled_near (places : Nat) :
    |(d.rescale places).value - x| < 6 / 10 / 10 ^ (d.rescale places).places := by
  have near := made.value_near least less
  rcases (rescale_rescaled made.nonneg places).near with ⟨_, kept⟩ | ⟨fewer, all, moved⟩
  · rw [kept made.full]
    exact near
  · have digit : (6 : ℚ) / 10 / 10 ^ d.places ≤ 6 / 100 / 10 ^ places := by
      have more : (6 : ℚ) / 100 / 10 ^ places = 6 / 10 / 10 ^ (places + 1) := by ring
      rw [more]
      exact div_le_div_of_nonneg_left (by norm_num) (by positivity) (pow_le_pow_right₀ (by norm_num) fewer)
    have parts : (6 : ℚ) / 10 / 10 ^ places =
        1 / 2 / 10 ^ places + 6 / 100 / 10 ^ places + 4 / 100 / 10 ^ places := by ring
    have room : (0 : ℚ) < 4 / 100 / 10 ^ places := by positivity
    rw [all, parts]
    rw [abs_lt] at near ⊢
    rw [abs_le] at moved
    constructor <;> linarith

end Shortened

end DecimalRounding

end NamedSql
