import NamedSql.Decimal.Binary64

/-! Doubles nearest to integers. Where doubles are so many ones apart, an integer becomes the nearest multiple
of that distance, a tie the even one, and only a multiple stays what it is. -/
namespace NamedSql.IntegerRounding
open Binary64

variable {n d q k j : Nat} {x : Binary64}

theorem twoTo_add (a b : Nat) : twoTo (a + b) = twoTo a * twoTo b := Nat.pow_add 2 a b

theorem twoTo_pos (a : Nat) : 0 < twoTo a := Nat.two_pow_pos a

/-- A ratio is rounded alike in smaller units. -/
theorem roundDiv_mul_right (n d : Nat) {c : Nat} (positive : 0 < c) :
    roundDiv (n * c) (d * c) = roundDiv n d := by
  have below : 2 * (n % d * c) < d * c ↔ 2 * (n % d) < d := by
    rw [← Nat.mul_assoc]
    exact Nat.mul_lt_mul_right positive
  have above : d * c < 2 * (n % d * c) ↔ d < 2 * (n % d) := by
    rw [← Nat.mul_assoc]
    exact Nat.mul_lt_mul_right positive
  simp only [roundDiv, Nat.mul_div_mul_right _ _ positive, Nat.mul_mod_mul_right, below, above]

/-- A rounded ratio is the one in full or one more. -/
theorem roundDiv_cases (n d : Nat) :
    (roundDiv n d = n / d ∧ 2 * (n % d) ≤ d) ∨ (roundDiv n d = n / d + 1 ∧ d ≤ 2 * (n % d)) := by
  unfold roundDiv
  simp only
  split
  · omega
  · split
    · omega
    · rcases Nat.mod_two_eq_zero_or_one (n / d) with even | odd
      · omega
      · omega

/-- Rounded to a multiple, a number is moved by at most half the distance of the multiples. -/
theorem roundDiv_near (n : Nat) (positive : 0 < d) :
    2 * n ≤ 2 * (roundDiv n d * d) + d ∧ 2 * (roundDiv n d * d) ≤ 2 * n + d := by
  have whole := Nat.div_add_mod n d
  have rest := Nat.mod_lt n positive
  rw [Nat.mul_comm] at whole
  rcases roundDiv_cases n d with ⟨same, short⟩ | ⟨next, long⟩
  · rw [same]
    omega
  · rw [next, Nat.add_mul]
    omega

/-- Of two multiples that are equally near the even one is taken. -/
theorem roundDiv_even (n : Nat) (positive : 0 < d)
    (tie : 2 * n = 2 * (roundDiv n d * d) + d ∨ 2 * (roundDiv n d * d) = 2 * n + d) :
    roundDiv n d % 2 = 0 := by
  have whole := Nat.div_add_mod n d
  have rest := Nat.mod_lt n positive
  rw [Nat.mul_comm] at whole
  unfold roundDiv at tie ⊢
  simp only at tie ⊢
  split
  · rename_i below
    rw [if_pos below] at tie
    omega
  · rename_i notBelow
    rw [if_neg notBelow] at tie
    split
    · rename_i above
      rw [if_pos above, Nat.add_mul] at tie
      omega
    · omega

/-- Rounding changes no multiple, and nothing else is left unchanged. -/
theorem roundDiv_exact_iff (positive : 0 < d) : roundDiv n d * d = n ↔ d ∣ n := by
  constructor
  · intro same
    exact ⟨roundDiv n d, by rw [Nat.mul_comm, same]⟩
  · rintro ⟨c, rfl⟩
    have exact : roundDiv (d * c) d = c := by
      simp [roundDiv, positive]
    rw [exact, Nat.mul_comm]

theorem le_roundDiv {a : Nat} (positive : 0 < d) (least : a * d ≤ n) : a ≤ roundDiv n d := by
  have below := (Nat.le_div_iff_mul_le positive).mpr least
  rcases roundDiv_cases n d with ⟨same, _⟩ | ⟨next, _⟩
  · omega
  · omega

theorem roundDiv_le {b : Nat} (positive : 0 < d) (most : n ≤ b * d) : roundDiv n d ≤ b := by
  have quotient : n / d ≤ b := Nat.div_le_of_le_mul (by rwa [Nat.mul_comm])
  rcases roundDiv_cases n d with ⟨same, _⟩ | ⟨next, long⟩
  · omega
  · have whole := Nat.div_add_mod n d
    by_cases last : n / d = b
    · rw [last, Nat.mul_comm] at whole
      omega
    · omega

/-- No integer is rounded below a power of two that it reaches. -/
theorem twoTo_le_rounded {i : Nat} (least : twoTo (i + j) ≤ n) :
    twoTo (i + j) ≤ roundDiv n (twoTo j) * twoTo j := by
  rw [twoTo_add] at least ⊢
  exact Nat.mul_le_mul_right _ (le_roundDiv (twoTo_pos j) least)

/-- The bits of a double, with the sign apart, are the remaining bits that it was made of. -/
theorem magnitude_ofMagnitude {m : Nat} (small : m < twoTo 63) :
    (ofMagnitude false m).magnitude = m ∧ (ofMagnitude false m).isNegative = false := by
  have half : twoTo 63 = 9223372036854775808 := rfl
  have bits : (ofMagnitude false m).bits.toNat = m := by
    apply UInt64.toNat_ofNat_of_lt'
    rw [half] at small
    exact Nat.lt_trans small (by decide)
  simp only [magnitude, isNegative, bits]
  exact ⟨Nat.mod_eq_of_lt small, decide_eq_false (by omega)⟩

/-- A double of a full significand is that many times the power of two that its bits are written with. -/
theorem units_of_magnitude (written : x.magnitude = k * twoTo 52 + q) (least : twoTo 52 ≤ q)
    (most : q ≤ 2 * twoTo 52) : x.units = q * twoTo k := by
  have fields : twoTo 52 = 4503599627370496 := rfl
  rw [fields] at written least most
  by_cases carried : q = 2 * 4503599627370496
  · -- Rounding has filled the significand up, so it is one of the next power.
    have field : x.exponentField = k + 2 := by
      rw [exponentField, fields, written]
      omega
    have fraction : x.fraction = 0 := by
      rw [Binary64.fraction, fields, written]
      omega
    have next : twoTo (k + 2 - 1) = 2 * twoTo k := by
      rw [show k + 2 - 1 = 1 + k by omega, twoTo_add]
      rfl
    rw [units, field, if_neg (by omega), fraction, next, carried, fields]
    omega
  · have field : x.exponentField = k + 1 := by
      rw [exponentField, fields, written]
      omega
    have fraction : 4503599627370496 + x.fraction = q := by
      rw [Binary64.fraction, fields, written]
      omega
    rw [units, field, if_neg (by omega), fields, fraction]
    rfl

/-- Whether the value of a double is a natural number. -/
structure HasValue (x : Binary64) (n : Nat) : Prop where
  positive : x.isNegative = false
  finite : x.isFinite = true
  units : x.units = n * unitsPerOne

private theorem significand_bounds (least : twoTo (52 + k) ≤ n) (most : n < twoTo (53 + k)) :
    twoTo 52 ≤ roundDiv n (twoTo k) ∧ roundDiv n (twoTo k) ≤ 2 * twoTo 52 := by
  have step : 0 < twoTo k := twoTo_pos k
  constructor
  · rw [twoTo_add] at least
    exact le_roundDiv step least
  · have whole : twoTo (53 + k) = 2 * twoTo 52 * twoTo k := twoTo_add 53 k
    exact roundDiv_le step (whole ▸ Nat.le_of_lt most)

/-- A significand is finite with every exponent but the last ones. -/
theorem magnitude_finite (full : q ≤ 2 * twoTo 52) (bounded : k ≤ 2044) :
    k * twoTo 52 + q < infinite := by
  have fields : twoTo 52 = 4503599627370496 := rfl
  rw [infinite]
  rw [fields] at full ⊢
  omega

/-- The double nearest to an integer, by the power of two that leaves 53 bits of its units. -/
theorem ofInt_scaled (least : twoTo (52 + k) ≤ n * unitsPerOne)
    (most : n * unitsPerOne < twoTo (53 + k)) (bounded : k ≤ 2044) : Binary64.ofInt n =
      ofMagnitude false (k * twoTo 52 + roundDiv (n * unitsPerOne) (twoTo k)) := by
  have shift : (n * unitsPerOne / 1).log2 - 52 = k := by
    have positive : n * unitsPerOne ≠ 0 := Nat.ne_of_gt (Nat.lt_of_lt_of_le (twoTo_pos _) least)
    have below : n * unitsPerOne < twoTo (52 + k + 1) := by
      rwa [show 52 + k + 1 = 53 + k by omega]
    rw [Nat.div_one, (Nat.log2_eq_iff positive).mpr ⟨least, below⟩, Nat.add_sub_cancel_left]
  have finite := magnitude_finite (significand_bounds least most).2 bounded
  have sign : decide ((n : Int) < 0) = false := by simp
  rw [Binary64.ofInt, Int.natAbs_natCast, sign, ofRatio?]
  simp only [shift, Nat.one_mul, if_pos finite, Option.getD_some]

theorem ofInt_units (least : twoTo (52 + k) ≤ n * unitsPerOne)
    (most : n * unitsPerOne < twoTo (53 + k)) (bounded : k ≤ 2044) :
    (Binary64.ofInt n).isNegative = false ∧ (Binary64.ofInt n).isFinite = true ∧
      (Binary64.ofInt n).units = roundDiv (n * unitsPerOne) (twoTo k) * twoTo k := by
  obtain ⟨lower, upper⟩ := significand_bounds least most
  have finite := magnitude_finite upper bounded
  obtain ⟨written, positive⟩ := magnitude_ofMagnitude (Nat.lt_trans finite (by decide))
  rw [ofInt_scaled least most bounded]
  refine ⟨positive, ?_, units_of_magnitude written lower upper⟩
  rw [isFinite, written]
  exact decide_eq_true finite

private theorem twoTo_units (j : Nat) : twoTo (1074 + j) = twoTo j * unitsPerOne := by
  rw [unitsPerOne, ← twoTo_add, Nat.add_comm]

private theorem units_bounds (least : twoTo (52 + j) ≤ n) (most : n < twoTo (53 + j)) :
    twoTo (52 + (1074 + j)) ≤ n * unitsPerOne ∧ n * unitsPerOne < twoTo (53 + (1074 + j)) := by
  have scaled (bits : Nat) : twoTo (bits + (1074 + j)) = twoTo (bits + j) * unitsPerOne := by
    rw [twoTo_add, twoTo_units, ← Nat.mul_assoc, ← twoTo_add]
  rw [scaled, scaled]
  exact ⟨Nat.mul_le_mul_right _ least, Nat.mul_lt_mul_of_pos_right most (twoTo_pos 1074)⟩

private theorem rounded_units (n j : Nat) :
    roundDiv (n * unitsPerOne) (twoTo (1074 + j)) = roundDiv n (twoTo j) := by
  have scale : 0 < unitsPerOne := twoTo_pos 1074
  rw [twoTo_units, roundDiv_mul_right n (twoTo j) scale]

/-- The double nearest to an integer depends on the rounded quotient alone. -/
theorem ofInt_rounded (least : twoTo (52 + j) ≤ n) (most : n < twoTo (53 + j)) (bounded : j ≤ 970) :
    Binary64.ofInt n = ofMagnitude false ((1074 + j) * twoTo 52 + roundDiv n (twoTo j)) := by
  obtain ⟨low, high⟩ := units_bounds least most
  rw [ofInt_scaled low high (by omega), rounded_units]

/-- An integer becomes the nearest double: the nearest multiple of a power of two that leaves a significand
of 53 bits. -/
theorem ofInt_hasValue (least : twoTo (52 + j) ≤ n) (most : n < twoTo (53 + j)) (bounded : j ≤ 970) :
    HasValue (Binary64.ofInt n) (roundDiv n (twoTo j) * twoTo j) := by
  obtain ⟨low, high⟩ := units_bounds least most
  obtain ⟨positive, finite, units⟩ := ofInt_units low high (by omega)
  refine ⟨positive, finite, ?_⟩
  rw [units, rounded_units, twoTo_units, Nat.mul_assoc]

/-- A double that is too great for a signed integer of 64 bits is read as the greatest of these. -/
theorem toInt64_of_hasValue (value : HasValue x n) (great : twoTo 63 ≤ n) :
    x.toInt64 = Int64.maxValue := by
  have scale : 0 < unitsPerOne := twoTo_pos 1074
  have whole : x.units / unitsPerOne = n := by
    rw [value.units, Nat.mul_div_cancel _ scale]
  have number : ¬infinite < x.magnitude := by
    have finite : x.magnitude < infinite := of_decide_eq_true value.finite
    omega
  have most : min n (twoTo 63 - 1) = twoTo 63 - 1 := by omega
  rw [toInt64, if_neg number, if_pos value.finite, whole]
  simp only [value.positive, Bool.false_eq_true, if_false, most]
  rfl

end NamedSql.IntegerRounding
