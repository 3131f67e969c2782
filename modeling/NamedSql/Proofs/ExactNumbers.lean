import NamedSql.Postgres.Cell
import NamedSql.Proofs.DecimalNumerals
import NamedSql.Proofs.DecimalRounding
import NamedSql.Proofs.WireIntegers

/-! Exact numbers in rows. The groups of a decimal number are added up in 96 bits, so that the sum is the
number itself until it no longer fits. From the group on that does not fit, the sum is rounded and stays what
it is, whatever follows. A text is therefore written for exactly the numbers that the 96 bits hold with the
places asked for, and for others it is less than six tenths of its last place away. Amounts of money always fit. -/
namespace NamedSql.ExactNumbers
open Postgres Decimal96 DecimalRounding DecimalNumerals WireIntegers

variable {weight group : Int} {groups : List Int} {total : ℚ} {d part : Decimal96} {reached : Nat}

/-- What groups count, the first of which has a weight. -/
def worth : Int → List Int → ℚ
  | _, [] => 0
  | weight, group :: rest => group * 10000 ^ weight + worth (weight - 1) rest

/-- The number that is sent. -/
def amount (n : Numeric) : ℚ := (if n.sign = Numeric.negative then -1 else 1) * worth n.weight n.groups

theorem worth_nonneg (weight : Int) (digits : ∀ group ∈ groups, 0 ≤ group) : 0 ≤ worth weight groups := by
  induction groups generalizing weight with
  | nil => exact le_refl 0
  | cons group rest ih =>
    have first : (0 : ℚ) ≤ group := by exact_mod_cast digits group List.mem_cons_self
    have later := ih (weight - 1) fun group member => digits group (List.mem_cons_of_mem _ member)
    exact add_nonneg (mul_nonneg first (zpow_pos (by norm_num) _).le) later

/-- The places of a group. -/
def placesOf (weight : Int) : Nat := 4 * (-weight).toNat

/-- What a group counts can be held, unless it is too great. -/
theorem part?_cases (near : weight.natAbs ≤ Numeric.weightLimit) (least : 0 ≤ group) (most : group < 10000) :
    (Numeric.part? weight group = none ∧ (bound : ℚ) ≤ group * 10000 ^ weight) ∨
      ∃ part, Numeric.part? weight group = some part ∧ 0 ≤ part.coefficient ∧
        part.places = placesOf weight ∧ part.value = group * 10000 ^ weight ∧
        (weight < 0 → part.coefficient < 10000) := by
  have limit : Numeric.weightLimit = 7 := rfl
  have most28 : mostPlaces = 28 := rfl
  have counts : ((group * tenTo (4 * weight.toNat) : ℤ) : ℚ) / 10 ^ placesOf weight = group * 10000 ^ weight := by
    have base : (10000 : ℚ) = 10 ^ 4 := by norm_num
    rw [Int.cast_mul, Int.cast_natCast, cast_tenTo, base, placesOf]
    rcases Int.le_total 0 weight with positive | negative
    · obtain ⟨w, rfl⟩ := Int.eq_ofNat_of_zero_le positive
      simp [← pow_mul]
    · obtain ⟨w, same⟩ := Int.eq_ofNat_of_zero_le (show 0 ≤ -weight by omega)
      obtain rfl : weight = -(w : ℤ) := by omega
      simp [← pow_mul, div_eq_mul_inv]
  rw [Numeric.part?, if_pos near]
  by_cases held : (group * tenTo (4 * weight.toNat) : ℤ).natAbs < bound ∧ 4 * (-weight).toNat ≤ mostPlaces
  · right
    rw [make?, dif_pos held]
    refine ⟨_, rfl, by positivity, rfl, counts, ?_⟩
    intro negative
    have whole : 4 * weight.toNat = 0 := by omega
    simp only [whole]
    have unit : (tenTo 0 : ℤ) = 1 := rfl
    rw [unit]
    omega
  · left
    rw [make?, dif_neg held]
    refine ⟨rfl, ?_⟩
    have short : 4 * (-weight).toNat ≤ mostPlaces := by omega
    have great : (bound : ℤ) ≤ group * tenTo (4 * weight.toNat) := by
      have sign : 0 ≤ group * (tenTo (4 * weight.toNat) : ℤ) := by positivity
      omega
    have positive : 0 ≤ weight := by
      by_contra negative
      have whole : 4 * weight.toNat = 0 := by omega
      have unit : (tenTo 0 : ℤ) = 1 := rfl
      rw [whole, unit, bound_eq] at great
      omega
    have none : placesOf weight = 0 := by
      rw [placesOf]
      omega
    rw [← counts, none, pow_zero, div_one]
    exact_mod_cast great

/-- What the sum is after groups that count a total and reach down to so many places: the total itself, or
what was rounded when it no longer fitted, with groups behind it that do not reach the last place there was. -/
inductive Standing (reached : Nat) (total : ℚ) (d : Decimal96) : Prop
  | exact (nonneg : 0 ≤ d.coefficient) (short : d.places ≤ reached) (same : d.value = total)
  | rounded (n p : Nat) (shortened : Shortened n p d) (before : p ≤ reached) (least : n / 10 ^ p ≤ total)
      (room : total + 1 / 10 ^ reached ≤ (n + 1) / 10 ^ p)

theorem Standing.total_nonneg (standing : Standing reached total d) : 0 ≤ total := by
  cases standing with
  | exact sign short same =>
    rw [← same, Decimal96.value]
    positivity
  | rounded n p shortened before least room => exact le_trans (by positivity) least

/-- One group more leaves the sum standing, or makes it too great. -/
theorem add?_standing (standing : Standing reached total d) (nonneg : 0 ≤ part.coefficient)
    (order : reached ≤ part.places)
    (behind : 0 < reached → part.places = reached + 4 ∧ part.coefficient < 10000) :
    (d.add? part = none ∧ (bound : ℚ) - 1 / 2 ≤ total + part.value) ∨
      ∃ sum, d.add? part = some sum ∧ Standing part.places (total + part.value) sum := by
  cases standing with
  | exact sign short same =>
    have outcome := add?_sum sign nonneg (Nat.le_trans short order)
    rw [same] at outcome
    cases result : d.add? part with
    | none =>
      rw [result] at outcome
      cases outcome with
      | beyond great => exact .inl ⟨rfl, great⟩
    | some sum =>
      rw [result] at outcome
      cases outcome with
      | exact _ nonneg short same => exact .inr ⟨sum, rfl, .exact nonneg short same⟩
      | rounded n _ written shortened =>
        refine .inr ⟨sum, rfl, .rounded n part.places shortened (Nat.le_refl _) written.ge ?_⟩
        rw [written, add_div]
  | rounded n p shortened before least room =>
    have shorter := shortened.shorter
    obtain ⟨places, small⟩ := behind (by omega)
    have far : 2 * part.coefficient.toNat < tenTo (part.places - d.places) := by
      have digits : tenTo 5 ≤ tenTo (part.places - d.places) := tenTo_le (by omega)
      have five : tenTo 5 = 100000 := rfl
      omega
    refine .inr ⟨d, add?_full shortened.full nonneg (by omega) far, .rounded n p shortened (by omega) ?_ ?_⟩
    · have counted : 0 ≤ part.value := by
        rw [Decimal96.value]
        positivity
      linarith
    · -- The group and one unit of its own are at most a unit of the place before it.
      have unit : part.value + 1 / 10 ^ part.places ≤ 1 / 10 ^ reached := by
        have most : (part.coefficient : ℚ) + 1 ≤ 10000 := by exact_mod_cast small
        have split : (10 : ℚ) ^ (reached + 4) = 10 ^ reached * 10000 := by
          rw [pow_add]
          norm_num
        rw [Decimal96.value, places, ← add_div, split, div_le_div_iff₀ (by positivity) (by positivity)]
        nlinarith [show (0 : ℚ) < 10 ^ reached by positivity]
      linarith

/-- Whether all groups are near enough to the point, the first of which has a weight. -/
def Near (weight : Int) (groups : List Int) : Prop :=
  ∀ i < groups.length, (weight - i).natAbs ≤ Numeric.weightLimit

instance (weight : Int) (groups : List Int) : Decidable (Near weight groups) :=
  inferInstanceAs (Decidable (∀ i < groups.length, _))

theorem near_cons : Near weight (group :: groups) ↔
    weight.natAbs ≤ Numeric.weightLimit ∧ Near (weight - 1) groups := by
  constructor
  · intro near
    refine ⟨by simpa using near 0 (by simp), fun i less => ?_⟩
    have next := near (i + 1) (by simpa using less)
    rw [Nat.cast_add, Nat.cast_one] at next
    omega
  · rintro ⟨first, rest⟩ i less
    cases i with
    | zero => simpa using first
    | succ i =>
      have next := rest i (by simpa using less)
      rw [Nat.cast_add, Nat.cast_one]
      omega

/-- There is no sum with a group that is too far from the point. -/
theorem sum?_far (far : ¬Near weight groups) : Numeric.sum? weight d groups = none := by
  induction groups generalizing weight d with
  | nil => exact absurd (fun i less => absurd less (Nat.not_lt_zero i)) far
  | cons group rest ih =>
    by_cases first : weight.natAbs ≤ Numeric.weightLimit
    · have later : ¬Near (weight - 1) rest := fun near => far (near_cons.mpr ⟨first, near⟩)
      rw [Numeric.sum?]
      cases Numeric.part? weight group with
      | none => rfl
      | some part =>
        cases added : d.add? part with
        | none => simp [added]
        | some sum => simpa [added] using ih later
    · rw [Numeric.sum?, Numeric.part?, if_neg first]
      rfl

/-- All groups together leave the sum standing, or make it too great. -/
theorem sum?_standing (digits : ∀ group ∈ groups, 0 ≤ group ∧ group < 10000) (near : Near weight groups)
    (standing : Standing (placesOf (weight + 1)) total d) :
    (Numeric.sum? weight d groups = none ∧ (bound : ℚ) - 1 / 2 ≤ total + worth weight groups) ∨
      ∃ sum reached, Numeric.sum? weight d groups = some sum ∧
        Standing reached (total + worth weight groups) sum := by
  induction groups generalizing weight d total with
  | nil =>
    rw [worth, add_zero]
    exact .inr ⟨d, _, rfl, standing⟩
  | cons group rest ih =>
    obtain ⟨first, later⟩ := near_cons.mp near
    obtain ⟨least, most⟩ := digits group List.mem_cons_self
    have restDigits : ∀ group ∈ rest, 0 ≤ group ∧ group < 10000 :=
      fun group member => digits group (List.mem_cons_of_mem _ member)
    have restWorth := worth_nonneg (weight - 1) fun group member => (restDigits group member).1
    have half : (0 : ℚ) ≤ 1 / 2 := by norm_num
    rw [Numeric.sum?, worth, ← add_assoc]
    rcases part?_cases first least most with ⟨none, great⟩ | ⟨part, some, nonneg, places, value, small⟩
    · rw [none]
      have before := standing.total_nonneg
      exact .inl ⟨rfl, by linarith⟩
    · rw [some]
      have order : placesOf (weight + 1) ≤ part.places := by
        rw [places, placesOf, placesOf]
        omega
      have behind : 0 < placesOf (weight + 1) → part.places = placesOf (weight + 1) + 4 ∧
          part.coefficient < 10000 := by
        intro fraction
        rw [placesOf] at fraction
        refine ⟨?_, small (by omega)⟩
        rw [places, placesOf, placesOf]
        omega
      rcases add?_standing standing nonneg order behind with ⟨none, great⟩ | ⟨sum, added, next⟩
      · rw [value] at great
        exact .inl ⟨by simp [none], by linarith⟩
      · have again : placesOf weight = placesOf (weight - 1 + 1) := by rw [Int.sub_add_cancel]
        rw [value, places, again] at next
        simpa [added] using ih restDigits later next

theorem standing_zero (weight : Int) : Standing (placesOf weight) 0 .zero :=
  .exact (Int.le_refl 0) (Nat.zero_le _) (by simp [Decimal96.value, Decimal96.zero])

/-- A sum that stands is of a number that does not round to one too great. -/
theorem Standing.total_less (standing : Standing reached total d) : total < bound - 1 / 2 := by
  cases standing with
  | exact sign short same =>
    have small : (d.coefficient : ℚ) + 1 ≤ bound := by
      have := d.small
      have whole : d.coefficient + 1 ≤ bound := by omega
      exact_mod_cast whole
    have unit : (1 : ℚ) ≤ 10 ^ d.places := one_le_pow₀ (by norm_num)
    have most : d.value ≤ d.coefficient := div_le_self (by exact_mod_cast sign) unit
    linarith
  | rounded n p shortened before least room =>
    have below : (2 : ℚ) * (n + 1) + 10 ^ p ≤ 2 * (bound * 10 ^ p) := by
      rw [← cast_tenTo]
      exact_mod_cast shortened.below
    have most : ((n : ℚ) + 1) / 10 ^ p ≤ bound - 1 / 2 := by
      rw [div_le_iff₀ (by positivity)]
      linarith
    have unit : (0 : ℚ) < 1 / 10 ^ reached := by positivity
    linarith

/-- With the places asked for, a sum that stands is near to the number, and is it if it can be. -/
theorem Standing.rescaled (standing : Standing reached total d) (places : Nat) :
    0 ≤ (d.rescale places).coefficient ∧
      |(d.rescale places).value - total| < 6 / 10 / 10 ^ (d.rescale places).places ∧
      ((d.rescale places).value = total ↔ Held total places) := by
  have heldWithin {r : Decimal96} (short : r.places ≤ places) (same : r.value = total) : Held total places :=
    same ▸ (held_value r).mono short
  cases standing with
  | exact sign short same =>
    obtain ⟨nonneg, short, near, exact⟩ := rescale_rescaled sign places
    rw [same] at near exact
    refine ⟨nonneg, ?_, heldWithin short, exact⟩
    rcases near with ⟨same, _⟩ | ⟨_, all, near⟩
    · rw [same, sub_self, abs_zero]
      positivity
    · rw [all]
      have half : (1 : ℚ) / 2 / 10 ^ places < 6 / 10 / 10 ^ places :=
        div_lt_div_of_pos_right (by norm_num) (by positivity)
      linarith
  | rounded n p shortened before least room =>
    have less : total < (n + 1) / 10 ^ p := by
      have unit : (0 : ℚ) < 1 / 10 ^ reached := by positivity
      linarith
    have unheld : ¬Held total places := shortened.not_held least less
    obtain ⟨nonneg, short, _, _⟩ := rescale_rescaled shortened.nonneg places
    exact ⟨nonneg, shortened.rescaled_near least less places, fun same => absurd (heldWithin short same) unheld,
      fun held => absurd held unheld⟩

/-- Whether there is no text for a number: it is none, its places are negative, a group is too far from the
point, or it rounds to one that is too great. -/
def Beyond (n : Numeric) : Prop :=
  (n.sign ≠ 0 ∧ n.sign ≠ Numeric.negative) ∨
    (n.groups ≠ [] ∧
      (n.places < 0 ∨ ¬Near n.weight n.groups ∨ (bound : ℚ) - 1 / 2 ≤ worth n.weight n.groups))

private theorem text?_beyond {n : Numeric} (digits : ∀ group ∈ n.groups, 0 ≤ group ∧ group < 10000)
    (beyond : Beyond n) : n.text? = none := by
  unfold Numeric.text?
  rcases beyond with sign | ⟨some, beyond⟩
  · rw [if_pos sign]
  · split
    · rfl
    rw [if_neg (by simpa using some)]
    split
    · rfl
    rename_i places
    rw [Option.map_eq_none_iff]
    rcases beyond with negative | far | great
    · exact absurd negative places
    · exact sum?_far far
    · by_cases near : Near n.weight n.groups
      · rcases sum?_standing digits near (standing_zero _) with ⟨none, _⟩ | ⟨sum, _, _, standing⟩
        · exact none
        · have less := standing.total_less
          rw [zero_add] at less
          exact absurd great (not_le.mpr less)
      · exact sum?_far near

/-- A text for a number: it is near, and it is the number itself if that can be held. -/
def Writes (text : String) (n : Numeric) : Prop :=
  ∃ numeral, Numeral.read? text = some numeral ∧
    |numeral.value - amount n| < 6 / 10 / 10 ^ numeral.places ∧
    (numeral.value = amount n ↔ Held (amount n) n.places.toNat)

private theorem text_writes {n : Numeric} {r : Decimal96} (nonneg : 0 ≤ r.coefficient)
    (near : |r.value - worth n.weight n.groups| < 6 / 10 / 10 ^ r.places)
    (exact : r.value = worth n.weight n.groups ↔ Held (worth n.weight n.groups) n.places.toNat) :
    Writes (r.text (n.sign = Numeric.negative)) n := by
  have written : ∀ negative, (⟨negative, r.coefficient.natAbs, r.places⟩ : Numeral).value =
      (if negative then -1 else 1) * r.value := by
    intro negative
    have cast : ((r.coefficient.natAbs : Nat) : ℚ) = r.coefficient := by
      rw [Nat.cast_natAbs, abs_of_nonneg nonneg]
    rw [Numeral.value, cast, Decimal96.value]
  refine ⟨_, read?_fixedText _ _ _, ?_⟩
  rw [written, amount]
  by_cases negative : n.sign = Numeric.negative
  · have mirrored : ∀ x : ℚ, Held (-x) n.places.toNat ↔ Held x n.places.toNat :=
      fun x => ⟨fun held => by simpa using held.neg, Held.neg⟩
    simp only [negative, decide_true, if_true, neg_one_mul, mirrored, neg_inj]
    refine ⟨?_, exact⟩
    rwa [← neg_sub', abs_neg]
  · simp only [negative, decide_false, Bool.false_eq_true, if_false, one_mul]
    exact ⟨near, exact⟩

private theorem text?_within {n : Numeric} (digits : ∀ group ∈ n.groups, 0 ≤ group ∧ group < 10000)
    (within : ¬Beyond n) : ∃ text, n.text? = some text ∧ Writes text n := by
  simp only [Beyond, not_or, not_and, not_not, not_lt, not_le] at within
  obtain ⟨sign, within⟩ := within
  rw [Numeric.text?, if_neg (fun wrong => wrong.2 (sign wrong.1))]
  by_cases empty : n.groups = []
  · have zero : amount n = 0 := by rw [amount, empty, worth, mul_zero]
    have value : (⟨false, 0, 0⟩ : Numeral).value = 0 := by simp [Numeral.value]
    have held : Held 0 n.places.toNat := ⟨0, 0, by decide, Nat.zero_le _, Nat.zero_le _, by simp⟩
    refine ⟨"0", by rw [empty]; rfl, ⟨false, 0, 0⟩, read?_fixedText false 0 0, ?_, ?_⟩
    · simp [value, zero]
    · rw [value, zero]
      exact ⟨fun _ => held, fun _ => rfl⟩
  · obtain ⟨places, near, less⟩ := within empty
    rcases sum?_standing digits near (standing_zero _) with ⟨_, great⟩ | ⟨sum, reached, added, standing⟩
    · rw [zero_add] at great
      exact absurd less (not_lt.mpr great)
    · rw [zero_add] at standing
      obtain ⟨nonneg, near, exact⟩ := standing.rescaled n.places.toNat
      refine ⟨_, ?_, text_writes nonneg near exact⟩
      rw [if_neg (by simpa using empty), if_neg (by omega), added]
      rfl

/-- A numeric cell has the text of the number, or is null. -/
private theorem read?_numeric {n : Numeric} (sent : Sent n) :
    Cell.read? "NUMERIC" (numericBytes n) = some (n.text?.elim .null .text) := by
  have read : Cell.read? "NUMERIC" (numericBytes n) =
      some (((Numeric.ofBytes? (numericBytes n)).bind Numeric.text?).elim .null .text) := rfl
  rw [read, ofBytes?_numericBytes sent, Option.bind_some]

private theorem money_written (cents : Int64) :
    ∃ text numeral, Cell.read? "MONEY" (ofInt 8 cents.toInt) = some (.text text) ∧
      Numeral.read? text = some numeral ∧ numeral.value = cents.toInt / 100 := by
  have bits : twoTo (8 * 8) = 18446744073709551616 := rfl
  have least := cents.le_toInt
  have most := cents.toInt_lt
  have read : Bytes.toInt (ofInt 8 cents.toInt) = cents.toInt :=
    toInt_ofInt (by rw [bits]; omega) (by rw [bits]; omega)
  have cell : Cell.read? "MONEY" (ofInt 8 cents.toInt) =
      some (.text (Cell.moneyText (Bytes.toInt (ofInt 8 cents.toInt)))) := rfl
  rw [read] at cell
  refine ⟨_, _, cell, read?_fixedText _ _ _, ?_⟩
  have magnitude : ((cents.toInt.natAbs : Nat) : ℚ) = |(cents.toInt : ℚ)| := by
    rw [Nat.cast_natAbs, Int.cast_abs]
  rw [Numeral.value, magnitude]
  by_cases negative : cents.toInt < 0
  · have sign : (cents.toInt : ℚ) < 0 := by exact_mod_cast negative
    simp only [negative, decide_true, if_true, abs_of_neg sign]
    ring
  · have sign : (0 : ℚ) ≤ cents.toInt := by exact_mod_cast not_lt.mp negative
    simp only [negative, decide_false, Bool.false_eq_true, if_false, abs_of_nonneg sign]
    ring

/-- What exact numbers are decoded to. A decimal number beyond what there are texts for becomes null. Any other
becomes a text less than six tenths of its last place away, which is exact if and only if the number can be held
with its places. Every amount of money becomes the exact text. -/
theorem exact_numbers_decoded (n : Numeric) (sent : Sent n) (cents : Int64) :
    (Beyond n → Cell.read? "NUMERIC" (numericBytes n) = some .null) ∧
      (¬Beyond n → ∃ text, Cell.read? "NUMERIC" (numericBytes n) = some (.text text) ∧ Writes text n) ∧
      ∃ text numeral, Cell.read? "MONEY" (ofInt 8 cents.toInt) = some (.text text) ∧
        Numeral.read? text = some numeral ∧ numeral.value = cents.toInt / 100 := by
  rw [read?_numeric sent]
  refine ⟨?_, ?_, money_written cents⟩
  · intro beyond
    rw [text?_beyond sent.digits beyond]
    rfl
  · intro within
    obtain ⟨text, written, writes⟩ := text?_within sent.digits within
    rw [written]
    exact ⟨text, rfl, writes⟩

/-- 5.10, with two places. -/
def price : Numeric := ⟨0, 0, 2, [5, 1000]⟩

theorem price_decoded : Sent price ∧
    ∃ text numeral, Cell.read? "NUMERIC" (numericBytes price) = some (.text text) ∧
      Numeral.read? text = some numeral ∧ numeral.value = amount price := by
  have counts : worth 0 [5, 1000] = 51 / 10 := by norm_num [worth]
  have sent : Sent price := by constructor <;> decide
  have within : ¬Beyond price := by
    rintro (wrong | ⟨_, wrong | far | great⟩)
    · exact absurd wrong (by decide)
    · exact absurd wrong (by decide)
    · exact far (by decide)
    · rw [price, counts, bound_eq] at great
      norm_num at great
  have held : Held (amount price) 2 := by
    refine ⟨51, 1, by decide, by decide, by decide, ?_⟩
    rw [amount, price, counts]
    norm_num [Numeric.negative]
  obtain ⟨text, written, numeral, read, _, exact⟩ := (exact_numbers_decoded price sent 0).2.1 within
  exact ⟨sent, text, numeral, written, read, exact.mpr held⟩

/-- 123456789012345678901234.567891, which has a digit more than there is room for. -/
def thirtyDigits : Numeric := ⟨5, 0, 6, [1234, 5678, 9012, 3456, 7890, 1234, 5678, 9100]⟩

/-- The last place is lost. -/
theorem thirtyDigits_rounded : Sent thirtyDigits ∧
    ∃ numeral,
      Cell.read? "NUMERIC" (numericBytes thirtyDigits) = some (.text "123456789012345678901234.56789") ∧
        Numeral.read? "123456789012345678901234.56789" = some numeral ∧
        numeral.value ≠ amount thirtyDigits := by
  have sent : Sent thirtyDigits := by constructor <;> decide
  have text : thirtyDigits.text? = some "123456789012345678901234.56789" := by decide +kernel
  refine ⟨sent, ⟨false, 12345678901234567890123456789, 5⟩, ?_, by decide +kernel, ?_⟩
  · rw [read?_numeric sent, text]
    rfl
  · rw [amount, thirtyDigits, Numeral.value]
    norm_num [worth, Numeric.negative]

end NamedSql.ExactNumbers
