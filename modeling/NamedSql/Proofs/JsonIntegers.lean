import NamedSql.Json.Number
import NamedSql.Proofs.RequestIntegers

/-! Integers in texts of JSON. An integer is carried as one as long as 64 bits hold it, with a sign or without;
a greater one becomes a double when it is read. -/
namespace NamedSql.JsonIntegers
open RequestIntegers

variable {n : Int}

/-- Whether JSON carries an integer as an integer: its text is read as it. -/
def Carried (n : Int) : Prop := Json.Number.read? (toString n).toList = some (some (.int n))

/-- No number but zero is written with a zero in front. -/
theorem head_toDigits {k : Nat} (positive : 0 < k) : (Nat.toDigits 10 k).head? ≠ some '0' := by
  induction k using Nat.strongRecOn with
  | ind k ih =>
    rw [Nat.toDigits_eq_if (by decide)]
    split
    · rename_i single
      have code := Nat.toNat_digitChar_of_lt_ten single
      intro zero
      simp only [List.head?_cons, Option.some.injEq] at zero
      rw [zero] at code
      change 48 = 48 + k at code
      omega
    · have front := ih (k / 10) (by omega) (by omega)
      rw [List.head?_append_of_ne_nil _ Nat.toDigits_ne_nil]
      exact front

private theorem whole_digits (k : Nat) : (Nat.toDigits 10 k).takeWhile Char.isDigit = Nat.toDigits 10 k ∧
    (Nat.toDigits 10 k).dropWhile Char.isDigit = [] := by
  have all := List.all_eq_true.mp (digits_all k)
  exact ⟨List.takeWhile_eq_self_iff.mpr all, List.dropWhile_eq_nil_iff.mpr all⟩

private theorem leading_zero (k : Nat) :
    ¬((Nat.toDigits 10 k).head? = some '0' ∧ 1 < (Nat.toDigits 10 k).length) := by
  rintro ⟨zero, long⟩
  by_cases none : k = 0
  · subst none
    simp at long
  · exact head_toDigits (Nat.pos_of_ne_zero none) zero

private theorem read?_digits (k : Nat) : Json.Number.read? (Nat.toDigits 10 k) =
    some (Json.Number.ofInteger false (Nat.toDigits 10 k)) := by
  obtain ⟨whole, rest⟩ := whole_digits k
  have all := digits_all k
  unfold Json.Number.read?
  split
  rename_i negative body sign
  -- Digits begin with no sign.
  split at sign
  · rename_i tail same
    rw [same] at all
    simp at all
  · cases sign
    simp [whole, rest, leading_zero k, Nat.toDigits_ne_nil]

private theorem read?_negative (k : Nat) : Json.Number.read? ('-' :: Nat.toDigits 10 k) =
    some (Json.Number.ofInteger true (Nat.toDigits 10 k)) := by
  obtain ⟨whole, rest⟩ := whole_digits k
  simp [Json.Number.read?, whole, rest, leading_zero k, Nat.toDigits_ne_nil]

/-- What is put together from digits and an exponent is a double. -/
private theorem ofParts?_ne_int (negative : Bool) (k : Nat) (exponent : Int) :
    Json.Number.ofParts? negative k exponent ≠ some (.int n) := by
  unfold Json.Number.ofParts?
  intro same
  obtain ⟨x, _, float⟩ := Option.map_eq_some_iff.mp same
  cases float

private theorem ofInteger_eq_int (negative : Bool) (k : Nat) :
    Json.Number.ofInteger negative (Nat.toDigits 10 k) = some (.int n) ↔
      (negative = false ∧ k < twoTo 64 ∧ n = k) ∨
        (negative = true ∧ 0 < k ∧ k ≤ twoTo 63 ∧ n = -k) := by
  have value : Json.Number.digitsValue (Nat.toDigits 10 k) = k := digits_value k
  unfold Json.Number.ofInteger
  rw [value]
  cases negative
  · by_cases fits : k < UInt64.size
    · have below : k < twoTo 64 := fits
      simp [fits, below, eq_comm]
    · have beyond : ¬k < twoTo 64 := fits
      simp [fits, beyond, ofParts?_ne_int]
  · by_cases fits : 0 < k ∧ k ≤ twoTo 63
    · simp [fits, eq_comm]
    · simp [fits, ofParts?_ne_int]
      omega

/-- JSON carries the integers of 64 bits, signed or unsigned, and no others. -/
theorem carried_iff : Carried n ↔ -(twoTo 63 : Int) ≤ n ∧ n < (twoTo 64 : Int) := by
  unfold Carried
  rw [Int.toString_eq_repr, Int.repr_eq_if]
  split
  · rename_i least
    rw [Nat.toList_repr, read?_digits, Option.some_inj, ofInteger_eq_int]
    simp only [reduceCtorEq, true_and, false_and, or_false]
    omega
  · rename_i negative
    have written : ("-" ++ (-n).toNat.repr).toList = '-' :: Nat.toDigits 10 (-n).toNat := by
      rw [String.toList_append, Nat.toList_repr]
      rfl
    rw [written, read?_negative, Option.some_inj, ofInteger_eq_int]
    simp only [reduceCtorEq, true_and, false_and, false_or]
    omega

theorem Carried.fits (carried : Carried n) (signed : n < (twoTo 63 : Int)) : fitsBits 64 n = true :=
  fitsBits_iff.mpr ⟨(carried_iff.mp carried).1, signed⟩

theorem Carried.unsigned (carried : Carried n) (beyond : (twoTo 63 : Int) ≤ n) :
    ∃ k : Nat, n = k ∧ twoTo 63 ≤ k ∧ k < twoTo 64 := by
  have most := (carried_iff.mp carried).2
  obtain ⟨k, rfl⟩ := Int.eq_ofNat_of_zero_le (Int.le_trans (Int.natCast_nonneg _) beyond)
  exact ⟨k, rfl, Int.ofNat_le.mp beyond, Int.ofNat_lt.mp most⟩

end NamedSql.JsonIntegers
