import NamedSql.Request
import NamedSql.Proofs.AppendedClauses

/-! Integers that a request gives, as numbers or as their texts. The digits of an integer are read as the
integer itself, and blanks around them do not matter, so in either form it is the same one as long as
64 bits hold it. -/
namespace NamedSql.RequestIntegers
open StatementPieces AppendedClauses

variable {request : Request} {name : String}

theorem digits_value (n : Nat) :
    (Nat.toDigits 10 n).foldl (fun n c => n * 10 + (c.toNat - 48)) 0 = n := by
  have step : (fun (n : Nat) (c : Char) => n * 10 + (c.toNat - 48)) =
      fun n c => 10 * n + (c.toNat - '0'.toNat) := by
    funext n c
    rw [Nat.mul_comm]
    rfl
  rw [step]
  exact Nat.ofDigitChars_ten_toDigits

theorem digits_all (n : Nat) : (Nat.toDigits 10 n).all Char.isDigit = true :=
  List.all_eq_true.mpr fun _ member => Nat.isDigit_of_mem_toDigits (by decide) (by decide) member

private theorem readInt?_digits (n : Nat) : Text.readInt? (Nat.toDigits 10 n) = some (n : Int) := by
  have all := digits_all n
  unfold Text.readInt?
  split
  rename_i negative digits sign
  -- Digits begin with no sign.
  split at sign
  · rename_i rest same
    rw [same] at all
    simp at all
  · rename_i rest same
    rw [same] at all
    simp at all
  · cases sign
    simp [Nat.toDigits_ne_nil, all, digits_value]

private theorem readInt?_negative (n : Nat) :
    Text.readInt? ('-' :: Nat.toDigits 10 n) = some (-(n : Int)) := by
  simp [Text.readInt?, Nat.toDigits_ne_nil, digits_all, digits_value]

/-- An integer is read from its own text. -/
theorem readInt?_toString (n : Int) : Text.readInt? (toString n).toList = some n := by
  rw [Int.toString_eq_repr, Int.repr_eq_if]
  split
  · rename_i least
    rw [Nat.toList_repr, readInt?_digits, Int.toNat_of_nonneg least]
  · rename_i negative
    have written : ("-" ++ (-n).toNat.repr).toList = '-' :: Nat.toDigits 10 (-n).toNat := by
      rw [String.toList_append, Nat.toList_repr]
      rfl
    rw [written, readInt?_negative]
    congr 1
    omega

private theorem dropWhile_visible {s : List Char} (visible : ∀ c ∈ s, Text.isBlank c = false) :
    s.dropWhile Text.isBlank = s := by
  cases s with
  | nil => rfl
  | cons c s => exact List.dropWhile_cons_of_neg (by simp [visible c (List.mem_cons_self ..)])

/-- Trimming takes away the blanks around a text without blanks, and nothing else. -/
theorem trim_between {before s behind : List Char}
    (front : ∀ c ∈ before, Text.isBlank c = true) (back : ∀ c ∈ behind, Text.isBlank c = true)
    (visible : ∀ c ∈ s, Text.isBlank c = false) : Text.trim (before ++ (s ++ behind)) = s := by
  rw [Text.trim, Text.trimStart, List.dropWhile_append_of_pos front]
  cases s with
  | nil =>
    have nothing : behind.dropWhile Text.isBlank = [] := List.dropWhile_eq_nil_iff.mpr back
    rw [List.nil_append, nothing, Text.trimEnd_nil]
  | cons c s =>
    have first : ¬Text.isBlank c = true := by simp [visible c (List.mem_cons_self ..)]
    have tail : ∀ d ∈ behind.reverse, Text.isBlank d = true :=
      fun d member => back d (List.mem_reverse.mp member)
    rw [List.cons_append, List.dropWhile_cons_of_neg first, ← List.cons_append, Text.trimEnd,
      List.reverse_append, List.dropWhile_append_of_pos tail,
      dropWhile_visible fun d member => visible d (List.mem_reverse.mp member), List.reverse_reverse]

theorem numeral_visible (n : Int) : ∀ c ∈ (toString n).toList, Text.isBlank c = false := by
  obtain ⟨sign, digit, more, written, signs, all⟩ := numeral_toList n
  intro c member
  rw [written, List.mem_append] at member
  rcases member with inSign | inDigits
  · rcases signs with rfl | rfl
    · cases inSign
    · rw [List.mem_singleton.mp inSign]
      rfl
  · rw [← Bool.not_eq_true]
    intro blank
    have unnamed := (blank_passive blank).1
    rw [isNameChar_of_digit (all c inDigits)] at unnamed
    cases unnamed

/-- Whether a request gives an integer under a name: as a number, or as its text between blanks. -/
inductive Gives (request : Request) (name : String) (n : Int) : Prop
  | number (given : request.get? name = some (.ofInt n))
  | text {before behind : List Char} (front : ∀ c ∈ before, Text.isBlank c = true)
    (back : ∀ c ∈ behind, Text.isBlank c = true) (given : request.get? name =
      some (.text (String.ofList (before ++ ((toString n).toList ++ behind)))))

theorem fitsBits_iff {n : Int} :
    fitsBits 64 n = true ↔ -(twoTo 63 : Int) ≤ n ∧ n < (twoTo 63 : Int) := by
  rw [fitsBits, Bool.and_eq_true, decide_eq_true_iff, decide_eq_true_iff]

theorem not_fitsBits {k : Nat} (beyond : twoTo 63 ≤ k) : ¬fitsBits 64 k = true := by
  intro fits
  obtain ⟨_, signed⟩ := fitsBits_iff.mp fits
  omega

theorem fitsBits_toInt (n : Int64) : fitsBits 64 n.toInt = true :=
  fitsBits_iff.mpr ⟨n.le_toInt, n.toInt_lt⟩

theorem toInt_ofInt {n : Int} (fits : fitsBits 64 n = true) : (Int64.ofInt n).toInt = n := by
  obtain ⟨least, most⟩ := fitsBits_iff.mp fits
  exact Int64.toInt_ofInt_of_le least most

theorem int_of_number {n : Int} (given : request.get? name = some (.ofInt n)) :
    request.int name = if fitsBits 64 n then Int64.ofInt n else (Binary64.ofInt n).toInt64 := by
  have read : request.int name =
      (Json.Number.toInt64? (.int n)).getD (Json.Number.toBinary64 (.int n)).toInt64 := by
    rw [Request.int, given]
    rfl
  rw [read, Json.Number.toInt64?]
  by_cases fits : fitsBits 64 n = true
  · rw [if_pos fits, if_pos fits, Option.getD_some]
  · rw [if_neg fits, if_neg fits, Option.getD_none, Json.Number.toBinary64]

/-- The text of an integer is read as the integer, unless 64 bits are too few. -/
theorem int_of_text {n : Int} {before behind : List Char}
    (front : ∀ c ∈ before, Text.isBlank c = true) (back : ∀ c ∈ behind, Text.isBlank c = true)
    (given : request.get? name =
      some (.text (String.ofList (before ++ ((toString n).toList ++ behind))))) :
    request.int name = if fitsBits 64 n then Int64.ofInt n else 0 := by
  have trimmed := trim_between front back (numeral_visible n)
  rw [Request.int, given]
  simp only [String.toList_ofList, trimmed, Text.readInt64?, readInt?_toString, Option.bind_eq_bind,
    Option.bind_some]
  split
  · rfl
  · rfl

/-- What a request gives as an integer is read as that one. -/
theorem int_of_gives {n : Int64} (gives : Gives request name n.toInt) : request.int name = n := by
  have fits := fitsBits_toInt n
  cases gives with
  | number given => rw [int_of_number given, if_pos fits, Int64.ofInt_toInt]
  | text front back given => rw [int_of_text front back given, if_pos fits, Int64.ofInt_toInt]

end NamedSql.RequestIntegers
