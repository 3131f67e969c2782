import Mathlib.Data.List.TakeWhile
import NamedSql.Json.Number
import NamedSql.Proofs.IntegerRounding

/-! Fractions in texts of JSON. They are read in steps that round, but a significand of 53 bits and a power of
ten up to the 22nd are doubles themselves. Of a numeral that needs no more than these the only step that
rounds is the last one, so it is read as the double nearest to it. -/
namespace NamedSql.FractionReading
open Binary64 IntegerRounding Json.Number

variable {negative : Bool} {n m d c i : Nat} {x y : Binary64} {digits whole decimals : List Char}

/-- The greatest exponent of a power of ten that a double holds exactly. -/
def exactTens : Nat := 22

/-- A ratio has the same double in smaller units. -/
theorem ofRatio?_mul_right (negative : Bool) (n d : Nat) (positive : 0 < c) :
    ofRatio? negative (n * c) (d * c) = ofRatio? negative n d := by
  have units : n * c * unitsPerOne = n * unitsPerOne * c := Nat.mul_right_comm ..
  have divisor (k : Nat) : d * c * twoTo k = d * twoTo k * c := Nat.mul_right_comm ..
  simp only [ofRatio?, units, Nat.mul_div_mul_right _ _ positive, divisor, roundDiv_mul_right _ _ positive]

/-- The sign of a double does not depend on its rounding. -/
theorem ofRatio?_signed (negative : Bool) (n d : Nat) :
    ofRatio? negative n d = (ofRatio? false n d).map (signed negative) := by
  unfold ofRatio?
  simp only
  split
  · rename_i finite
    rw [Option.map_some, signed, (magnitude_ofMagnitude (Nat.lt_trans finite (by decide))).1]
  · rfl

private theorem log2_less {q bits : Nat} (below : q < twoTo bits) (some : 0 < bits) : q.log2 < bits := by
  by_cases zero : q = 0
  · subst zero
    simpa using some
  · exact (Nat.log2_lt zero).mpr below

/-- A number of few bits is below every infinity, whatever it is divided by. -/
theorem ofRatio?_finite (negative : Bool) (few : n < twoTo 53) (positive : 0 < d) :
    ∃ x, ofRatio? negative n d = some x := by
  have great : n * unitsPerOne / d < twoTo 1127 := by
    have scaled : n * unitsPerOne < twoTo 53 * unitsPerOne :=
      Nat.mul_lt_mul_of_pos_right few (twoTo_pos 1074)
    rw [unitsPerOne, ← twoTo_add] at scaled
    exact Nat.lt_of_le_of_lt (Nat.div_le_self ..) scaled
  have whole := Nat.lt_mul_div_succ (n * unitsPerOne) positive
  unfold ofRatio?
  simp only
  generalize n * unitsPerOne / d = q at great whole ⊢
  generalize shift : q.log2 - 52 = k
  have bounded : k ≤ 1074 := by
    have bits := log2_less great (by decide)
    omega
  have below : q < twoTo (53 + k) :=
    Nat.lt_of_lt_of_le Nat.lt_log2_self (Nat.pow_le_pow_right (by decide) (by omega))
  have rounded : roundDiv (n * unitsPerOne) (d * twoTo k) ≤ 2 * twoTo 52 := by
    refine roundDiv_le (Nat.mul_pos positive (twoTo_pos k)) ?_
    calc n * unitsPerOne ≤ d * (q + 1) := Nat.le_of_lt whole
      _ ≤ d * twoTo (53 + k) := Nat.mul_le_mul_left _ below
      _ = 2 * twoTo 52 * (d * twoTo k) := by rw [twoTo_add]; exact Nat.mul_left_comm ..
  exact ⟨_, if_pos (magnitude_finite rounded (by omega))⟩

/-- An integer is a double if its bits, moved to the front, fill a significand. -/
theorem ofInt_exact (least : twoTo 52 ≤ n * twoTo i) (most : n * twoTo i < twoTo 53)
    (bounded : i ≤ 1074) : HasValue (Binary64.ofInt n) n := by
  generalize shift : 1074 - i = k
  have units : n * unitsPerOne = n * twoTo i * twoTo k := by
    rw [Nat.mul_assoc, ← twoTo_add, unitsPerOne]
    congr 2
    omega
  have low : twoTo (52 + k) ≤ n * unitsPerOne := by
    rw [units, twoTo_add]
    exact Nat.mul_le_mul_right _ least
  have high : n * unitsPerOne < twoTo (53 + k) := by
    rw [units, twoTo_add]
    exact Nat.mul_lt_mul_of_pos_right most (twoTo_pos k)
  obtain ⟨positive, finite, rounded⟩ := ofInt_units low high (by omega)
  have whole : twoTo k ∣ n * unitsPerOne := ⟨n * twoTo i, by rw [units, Nat.mul_comm]⟩
  exact ⟨positive, finite, rounded.trans ((roundDiv_exact_iff (twoTo_pos k)).mpr whole)⟩

/-- A number of at most 53 bits is a double. -/
theorem ofInt_few (few : n < twoTo 53) : HasValue (Binary64.ofInt n) n := by
  by_cases zero : n = 0
  · subst zero
    exact ⟨by decide +kernel, by decide +kernel, by decide +kernel⟩
  · have bits := log2_less few (by decide)
    have low := Nat.log2_self_le zero
    have high := Nat.lt_log2_self (n := n)
    refine ofInt_exact (i := 52 - n.log2) ?_ ?_ (by omega)
    · calc twoTo 52 = twoTo n.log2 * twoTo (52 - n.log2) := by
            rw [← twoTo_add]
            congr 1
            omega
        _ ≤ n * twoTo (52 - n.log2) := Nat.mul_le_mul_right _ low
    · calc n * twoTo (52 - n.log2) < twoTo (n.log2 + 1) * twoTo (52 - n.log2) :=
            Nat.mul_lt_mul_of_pos_right high (twoTo_pos _)
        _ = twoTo 53 := by
            rw [← twoTo_add]
            congr 1
            omega

/-- The first powers of ten are doubles. -/
theorem power_exact (short : i ≤ exactTens) : HasValue (power i) (tenTo i) := by
  have each : ∀ i ≤ exactTens, (power i).isNegative = false ∧ (power i).isFinite = true ∧
      (power i).units = tenTo i * unitsPerOne := by decide +kernel
  obtain ⟨positive, finite, units⟩ := each i short
  exact ⟨positive, finite, units⟩

theorem multiply?_exact (first : HasValue x n) (second : HasValue y m) :
    x.multiply? y = ofRatio? false (n * m) 1 := by
  have scale : 0 < unitsPerOne * unitsPerOne := Nat.mul_pos (twoTo_pos 1074) (twoTo_pos 1074)
  have product : n * unitsPerOne * (m * unitsPerOne) = n * m * (unitsPerOne * unitsPerOne) :=
    Nat.mul_mul_mul_comm ..
  have same := ofRatio?_mul_right false (n * m) 1 scale
  rw [Nat.one_mul] at same
  rw [multiply?, first.units, second.units, product, same]

theorem divide_exact (first : HasValue x n) (second : HasValue y m) :
    x.divide y = (ofRatio? false n m).getD (ofMagnitude false infinite) := by
  have scale : 0 < unitsPerOne := twoTo_pos 1074
  rw [divide, first.units, second.units, ofRatio?_mul_right _ _ _ scale]

/-- Of few digits and a small power of ten only the last step rounds. -/
theorem ofParts?_nearest (few : n < twoTo 53) {exponent : Int} (short : exponent.natAbs ≤ exactTens) :
    ofParts? negative n exponent = (if exponent < 0 then ofRatio? negative n (tenTo exponent.natAbs)
      else ofRatio? negative (n * tenTo exponent.natAbs) 1).map .float := by
  have value := ofInt_few few
  have power := power_exact short
  have held : exponent.natAbs ≤ mostTens := Nat.le_trans short (by decide)
  unfold ofParts?
  simp only
  split
  · obtain ⟨x, finite⟩ := ofRatio?_finite false few (tenTo_pos exponent.natAbs)
    rw [lower, if_pos held, divide_exact value power, ofRatio?_signed negative, finite]
    rfl
  · rw [raise?, if_pos held, multiply?_exact value power, ofRatio?_signed negative, Option.map_map]
    rfl

/-- Digits only make a number greater. -/
theorem le_continued (digits : List Char) (n : Nat) :
    n ≤ digits.foldl (fun n c => n * 10 + (c.toNat - 48)) n := by
  induction digits generalizing n with
  | nil => exact Nat.le_refl _
  | cons c rest ih =>
    have more := ih (n * 10 + (c.toNat - 48))
    rw [List.foldl_cons]
    omega

/-- All digits of a number that 64 bits hold are read. -/
theorem absorb_all (fits : digits.foldl (fun n c => n * 10 + (c.toNat - 48)) n < UInt64.size) :
    absorb n digits = (digits.foldl (fun n c => n * 10 + (c.toNat - 48)) n, []) := by
  induction digits generalizing n with
  | nil => rfl
  | cons c rest ih =>
    rw [List.foldl_cons] at fits ⊢
    rw [absorb, if_pos (Nat.lt_of_le_of_lt (le_continued rest _) fits), ih fits]

/-- Digits end at the point, and those behind it with the numeral. -/
private theorem divided (numeric : ∀ c ∈ whole ++ decimals, c.isDigit = true) :
    (whole ++ '.' :: decimals).takeWhile Char.isDigit = whole ∧
      (whole ++ '.' :: decimals).dropWhile Char.isDigit = '.' :: decimals ∧
      decimals.takeWhile Char.isDigit = decimals ∧ decimals.dropWhile Char.isDigit = [] := by
  obtain ⟨front, behind⟩ := List.forall_mem_append.mp numeric
  have point : ¬Char.isDigit '.' = true := by decide
  rw [List.takeWhile_append_of_pos front, List.dropWhile_append_of_pos front,
    List.takeWhile_cons_of_neg point, List.dropWhile_cons_of_neg point, List.append_nil]
  exact ⟨rfl, rfl, List.takeWhile_eq_self_iff.mpr behind, List.dropWhile_eq_nil_iff.mpr behind⟩

/-- **A short fraction is the nearest double.** A numeral whose digits, without the point, are a number of at
most 53 bits is read as the double nearest to it, unless there are more than 22 places. -/
theorem fraction_nearest (negative : Bool) (given : whole ≠ [] ∧ decimals ≠ [])
    (numeric : ∀ c ∈ whole ++ decimals, c.isDigit = true)
    (unpadded : ¬(whole.head? = some '0' ∧ 1 < whole.length))
    (few : digitsValue (whole ++ decimals) < twoTo 53) (short : decimals.length ≤ exactTens) :
    read? ((if negative then ['-'] else []) ++ (whole ++ '.' :: decimals)) =
      some ((ofRatio? negative (digitsValue (whole ++ decimals)) (tenTo decimals.length)).map .float) := by
  obtain ⟨taken, left, places, ended⟩ := divided numeric
  have unsigned : (whole ++ '.' :: decimals).head? ≠ some '-' := by
    obtain ⟨c, rest, rfl⟩ := List.exists_cons_of_ne_nil given.1
    have digit := numeric c (by simp)
    rintro ⟨⟩
    cases digit
  generalize whole ++ '.' :: decimals = body at taken left unsigned ⊢
  have fits : digitsValue (whole ++ decimals) < UInt64.size := Nat.lt_trans few (by decide)
  have value : digitsValue (whole ++ decimals) =
      decimals.foldl (fun n c => n * 10 + (c.toNat - 48)) (digitsValue whole) := by
    rw [digitsValue, List.foldl_append]
    rfl
  have front : absorb 0 whole = (digitsValue whole, []) :=
    absorb_all (Nat.lt_of_le_of_lt (value ▸ le_continued decimals _) fits)
  have behind : absorb (digitsValue whole) decimals = (digitsValue (whole ++ decimals), []) :=
    value ▸ absorb_all (value ▸ fits)
  have exponent : (-decimals.length : Int) < 0 := by
    have some := List.length_pos_iff.mpr given.2
    omega
  have nearest : ofParts? negative (digitsValue (whole ++ decimals)) (-decimals.length) =
      (ofRatio? negative (digitsValue (whole ++ decimals)) (tenTo decimals.length)).map .float := by
    rw [ofParts?_nearest few (by simpa using short), if_pos exponent, Int.natAbs_neg, Int.natAbs_natCast]
  cases negative with
  | true => simp [read?, taken, left, places, ended, unpadded, given, front, behind, exponent?, nearest]
  | false =>
    unfold read?
    split
    rename_i negative rest sign
    -- Without a sign the numeral begins with a digit.
    split at sign
    · rename_i tail same
      exact absurd (congrArg List.head? same) unsigned
    · cases sign
      simp [taken, left, places, ended, unpadded, given, front, behind, exponent?, nearest]

-- With the digits of a longer numeral the first step rounds as well, and a neighbour is read.
example : read? "9007199254740993.0".toList =
    some (some (.float (Binary64.ofInt 9007199254740994))) ∧
      Binary64.ofInt 9007199254740993 = Binary64.ofInt 9007199254740992 := by
  decide +kernel

end NamedSql.FractionReading
