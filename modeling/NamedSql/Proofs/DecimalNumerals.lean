import Mathlib.Data.Rat.Defs
import NamedSql.Decimal.Fixed

/-! Decimal numerals and the numbers that they write. A numeral is an optional minus, digits and, behind a
point, the digits of its places. A text with a fixed number of places is the numeral of its coefficient
divided by that power of ten. -/
namespace NamedSql.DecimalNumerals

/-- A numeral: its sign, its digits as one number, and how many of them stand behind the point. -/
structure Numeral where
  negative : Bool
  digits : Nat
  places : Nat
deriving DecidableEq, Repr

namespace Numeral

/-- The number that a numeral writes. -/
def value (n : Numeral) : ℚ := (if n.negative then -1 else 1) * (n.digits / 10 ^ n.places)

/-- The digits of the places, which need a point in front of them. -/
def fraction? : List Char → Option (List Char)
  | [] => some []
  | '.' :: digits => if digits ≠ [] ∧ digits.all Char.isDigit then some digits else none
  | _ => none

/-- Reads what stands behind the sign. -/
def unsigned? (negative : Bool) (chars : List Char) : Option Numeral :=
  let whole := chars.takeWhile Char.isDigit
  if whole = [] then none
  else (fraction? (chars.dropWhile Char.isDigit)).map fun fraction =>
    ⟨negative, Nat.ofDigitChars 10 (whole ++ fraction) 0, fraction.length⟩

/-- Reads a numeral, if a text is one. -/
def read? (text : String) : Option Numeral :=
  match text.toList with
  | '-' :: chars => unsigned? true chars
  | chars => unsigned? false chars

end Numeral

variable {negative : Bool} {whole fraction : List Char}

/-- The point in front of the places, if there are any. -/
private def pointed (fraction : List Char) : List Char :=
  if fraction = [] then [] else '.' :: fraction

private theorem fraction?_pointed (digits : fraction.all Char.isDigit = true) :
    Numeral.fraction? (pointed fraction) = some fraction := by
  by_cases none : fraction = []
  · subst none
    rfl
  · rw [pointed, if_neg none, Numeral.fraction?, if_pos ⟨none, digits⟩]

private theorem pointed_eq {places : Nat} (length : fraction.length = places) :
    pointed fraction = (if places = 0 then [] else ['.']) ++ fraction := by
  subst length
  cases fraction with
  | nil => rfl
  | cons digit rest => rfl

/-- Nothing of the point or the places belongs to the digits in front of them. -/
private theorem pointed_stops (fraction : List Char) :
    (pointed fraction).takeWhile Char.isDigit = [] ∧
      (pointed fraction).dropWhile Char.isDigit = pointed fraction := by
  unfold pointed
  split
  · exact ⟨rfl, rfl⟩
  · have point : Char.isDigit '.' = false := rfl
    exact ⟨List.takeWhile_cons_of_neg (by simp [point]), List.dropWhile_cons_of_neg (by simp [point])⟩

private theorem unsigned?_pointed (some : whole ≠ []) (wholeDigits : whole.all Char.isDigit = true)
    (fractionDigits : fraction.all Char.isDigit = true) :
    Numeral.unsigned? negative (whole ++ pointed fraction) =
      Option.some ⟨negative, Nat.ofDigitChars 10 (whole ++ fraction) 0, fraction.length⟩ := by
  have all := List.all_eq_true.mp wholeDigits
  obtain ⟨taken, left⟩ := pointed_stops fraction
  rw [Numeral.unsigned?, List.takeWhile_append_of_pos all, List.dropWhile_append_of_pos all, taken, left,
    List.append_nil, fraction?_pointed fractionDigits]
  simp [some]

/-- The digits of a text with fixed places, with the zeros that fill it up. -/
private def filled (coefficient places : Nat) : List Char :=
  List.replicate (places + 1 - (Nat.toDigits 10 coefficient).length) '0' ++ Nat.toDigits 10 coefficient

private theorem filled_digits (coefficient places : Nat) :
    ∀ c ∈ filled coefficient places, c.isDigit = true := by
  intro c member
  rcases List.mem_append.mp member with zero | digit
  · rw [List.eq_of_mem_replicate zero]
    rfl
  · exact Nat.isDigit_of_mem_toDigits (by decide) (by decide) digit

private theorem filled_length (coefficient places : Nat) :
    places + 1 ≤ (filled coefficient places).length := by
  rw [filled, List.length_append, List.length_replicate]
  omega

/-- Zeros in front do not count. -/
private theorem filled_value (coefficient places : Nat) :
    Nat.ofDigitChars 10 (filled coefficient places) 0 = coefficient := by
  have zeros : ∀ n, Nat.ofDigitChars 10 (List.replicate n '0' ++ Nat.toDigits 10 coefficient) 0 =
      Nat.ofDigitChars 10 (Nat.toDigits 10 coefficient) 0 := by
    intro n
    induction n with
    | zero => rfl
    | succ n ih =>
      rw [List.replicate_succ, List.cons_append, Nat.ofDigitChars_cons]
      exact ih
  rw [filled, zeros]
  exact Nat.ofDigitChars_ten_toDigits

private theorem fixedText_chars (negative : Bool) (coefficient places : Nat) :
    ∃ whole fraction, whole ++ fraction = filled coefficient places ∧ whole ≠ [] ∧
      fraction.length = places ∧
      (Decimal.fixedText negative coefficient places).toList =
        (if negative then ['-'] else []) ++ (whole ++ pointed fraction) := by
  have long := filled_length coefficient places
  let before := (filled coefficient places).length - places
  refine ⟨(filled coefficient places).take before, (filled coefficient places).drop before,
    List.take_append_drop _ _, ?_, ?_, ?_⟩
  · intro none
    have length := congrArg List.length none
    rw [List.length_take, List.length_nil] at length
    omega
  · rw [List.length_drop]
    omega
  · have digits : (toString coefficient).toList = Nat.toDigits 10 coefficient := Nat.toList_repr
    have length : ((filled coefficient places).drop before).length = places := by
      rw [List.length_drop]
      omega
    rw [pointed_eq length, Decimal.fixedText, digits, String.toList_ofList]
    simp only [List.append_assoc]
    rfl

/-- A text with fixed places is read as what it was written for. -/
theorem read?_fixedText (negative : Bool) (coefficient places : Nat) :
    Numeral.read? (Decimal.fixedText negative coefficient places) =
      some ⟨negative, coefficient, places⟩ := by
  obtain ⟨whole, fraction, parts, wholeSome, length, chars⟩ := fixedText_chars negative coefficient places
  have digits := filled_digits coefficient places
  rw [← parts] at digits
  have wholeDigits : whole.all Char.isDigit = true :=
    List.all_eq_true.mpr fun c member => digits c (List.mem_append_left _ member)
  have fractionDigits : fraction.all Char.isDigit = true :=
    List.all_eq_true.mpr fun c member => digits c (List.mem_append_right _ member)
  have read (sign : Bool) : Numeral.unsigned? sign (whole ++ pointed fraction) =
      some ⟨sign, coefficient, places⟩ := by
    rw [unsigned?_pointed wholeSome wholeDigits fractionDigits, parts, filled_value, length]
  unfold Numeral.read?
  rw [chars]
  cases negative with
  | true => exact read true
  | false =>
    -- The first character is a digit, so it is no minus.
    obtain ⟨head, tail, rfl⟩ := List.exists_cons_of_ne_nil wholeSome
    have digit := digits head (by simp)
    split
    · rename_i rest same
      have minus : head = '-' := by
        simp only [Bool.false_eq_true, if_false, List.nil_append, List.cons_append] at same
        exact (List.cons.inj same).1
      rw [minus] at digit
      exact absurd digit (by decide)
    · exact read false

end NamedSql.DecimalNumerals
