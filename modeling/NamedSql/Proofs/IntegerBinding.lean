import NamedSql.Proofs.IntegerRounding
import NamedSql.Proofs.JsonIntegers
import NamedSql.Proofs.ParameterNames

/-! Integers that a request gives as numbers of JSON, and the values that statements bind for them. An integer
that fits a signed 64-bit one is bound as it is. One beyond is bound as the nearest double, and doubles are
two thousand and forty-eight apart there, so that different integers can be bound alike. -/
namespace NamedSql.IntegerBinding
open Sql Binary64 IntegerRounding JsonIntegers ParameterNames RequestIntegers

variable {n : Int}

/-- The integer that a double is, if it is one. -/
def integer? (x : Binary64) : Option Int :=
  if x.isFinite ∧ x.units % unitsPerOne = 0 then
    let whole : Nat := x.units / unitsPerOne
    some (if x.isNegative then -whole else whole)
  else none

/-- The integer that a bound value denotes, if it denotes one. -/
def denoted? : Value → Option Int
  | .int n => some n.toInt
  | .float x => integer? x
  | .text s => Text.readInt? s.toList
  | .null => none
  | .bool _ => none

theorem integer?_of_hasValue {x : Binary64} {k : Nat} (value : HasValue x k) :
    integer? x = some (k : Int) := by
  have scale : 0 < unitsPerOne := twoTo_pos 1074
  simp [integer?, value.finite, value.positive, value.units, Nat.mul_div_cancel _ scale]

/-- What an integer becomes when it is bound: itself where 64 bits with a sign hold it, and the nearest multiple
of the distance of doubles beyond. -/
def nearest (n : Int) : Int :=
  if n < (twoTo 63 : Int) then n else (roundDiv n.toNat (twoTo 11) * twoTo 11 : Nat)

/-- What may become of an integer of 64 bits. Only the multiples of the distance of doubles stay what they are
beyond the signed ones, and only there one integer becomes what another becomes. -/
structure Nearest (n : Int) : Prop where
  exact : nearest n = n ↔ n < (twoTo 63 : Int) ∨ (twoTo 11 : Int) ∣ n
  near : 2 * (nearest n - n).natAbs ≤ twoTo 11
  even : 2 * (nearest n - n).natAbs = twoTo 11 → (twoTo 12 : Int) ∣ nearest n
  apart : ∀ m : Int, m ≠ n → nearest m = nearest n → (twoTo 63 : Int) ≤ n

theorem nearest_signed (signed : n < (twoTo 63 : Int)) : nearest n = n := if_pos signed

theorem nearest_unsigned {k : Nat} (beyond : twoTo 63 ≤ k) :
    nearest k = (roundDiv k (twoTo 11) * twoTo 11 : Nat) := by
  have unsigned : ¬(k : Int) < (twoTo 63 : Int) := by omega
  rw [nearest, if_neg unsigned, Int.toNat_natCast]

/-- Rounding takes no integer from beyond the signed ones into these. -/
theorem le_nearest (beyond : (twoTo 63 : Int) ≤ n) : (twoTo 63 : Int) ≤ nearest n := by
  obtain ⟨k, rfl⟩ := Int.eq_ofNat_of_zero_le (Int.le_trans (Int.natCast_nonneg _) beyond)
  have least : twoTo 63 ≤ k := Int.ofNat_le.mp beyond
  rw [nearest_unsigned least]
  apply Int.ofNat_le.mpr
  exact twoTo_le_rounded (i := 52) (j := 11) least

private theorem nearest_of_signed (signed : n < (twoTo 63 : Int)) : Nearest n := by
  have kept := nearest_signed signed
  have distance : (nearest n - n).natAbs = 0 := by
    rw [kept, Int.sub_self]
    rfl
  refine ⟨iff_of_true kept (Or.inl signed), ?_, ?_, ?_⟩
  · rw [distance]
    exact Nat.zero_le _
  · intro half
    rw [distance] at half
    exact absurd half (Nat.ne_of_lt (twoTo_pos 11))
  · intro m different same
    rw [kept] at same
    by_cases other : m < (twoTo 63 : Int)
    · rw [nearest_signed other] at same
      exact absurd same different
    · have beyond := le_nearest (Int.not_lt.mp other)
      omega

private theorem nearest_of_unsigned {k : Nat} (beyond : twoTo 63 ≤ k) : Nearest k := by
  have distance : twoTo 11 = 2048 := rfl
  have step : 0 < twoTo 11 := twoTo_pos 11
  have multiple := nearest_unsigned beyond
  have close := roundDiv_near k step
  have tied := roundDiv_even k step
  have unsigned : ¬(k : Int) < (twoTo 63 : Int) := by omega
  refine ⟨?_, ?_, ?_, fun _ _ _ => Int.ofNat_le.mpr beyond⟩
  · rw [multiple, or_iff_right unsigned, Int.natCast_dvd_natCast, Int.natCast_inj]
    exact roundDiv_exact_iff step
  · rw [multiple]
    omega
  · intro half
    rw [multiple] at half ⊢
    obtain ⟨pairs, quotient⟩ := Nat.dvd_of_mod_eq_zero (tied (by omega))
    have double : twoTo 12 = 4096 := rfl
    apply Int.natCast_dvd_natCast.mpr
    rw [quotient, double, distance]
    omega

theorem is_nearest (n : Int) : Nearest n := by
  by_cases signed : n < (twoTo 63 : Int)
  · exact nearest_of_signed signed
  · have beyond := Int.not_lt.mp signed
    obtain ⟨k, rfl⟩ := Int.eq_ofNat_of_zero_le (Int.le_trans (Int.natCast_nonneg _) beyond)
    exact nearest_of_unsigned (Int.ofNat_le.mp beyond)

theorem ofJson_signed (fits : fitsBits 64 n = true) :
    Value.ofJson (.ofInt n) = .int (Int64.ofInt n) := by
  simp [Json.ofInt, Value.ofJson, Json.Number.toInt64?, fits]

theorem ofJson_unsigned {k : Nat} (beyond : twoTo 63 ≤ k) :
    Value.ofJson (.ofInt k) = .float (Binary64.ofInt k) := by
  have none : Json.Number.toInt64? (.int k) = none := by
    rw [Json.Number.toInt64?, if_neg (not_fitsBits beyond)]
  rw [Json.ofInt, Value.ofJson, none]
  rfl

/-- A number of JSON that is such an integer binds a value that denotes what the integer becomes. -/
theorem ofJson_denotes (carried : Carried n) :
    denoted? (Value.ofJson (.ofInt n)) = some (nearest n) := by
  by_cases signed : n < (twoTo 63 : Int)
  · have fits := carried.fits signed
    rw [ofJson_signed fits, denoted?, toInt_ofInt fits, nearest_signed signed]
  · obtain ⟨k, rfl, least, most⟩ := carried.unsigned (Int.not_lt.mp signed)
    rw [ofJson_unsigned least, denoted?, nearest_unsigned least]
    exact integer?_of_hasValue (ofInt_hasValue least most (by omega))

private theorem ofInt_congr {k l : Nat} (least : twoTo 63 ≤ k) (most : k < twoTo 64)
    (leastToo : twoTo 63 ≤ l) (mostToo : l < twoTo 64) (same : nearest l = nearest k) :
    Binary64.ofInt l = Binary64.ofInt k := by
  rw [nearest_unsigned least, nearest_unsigned leastToo, Int.natCast_inj] at same
  have quotient := Nat.eq_of_mul_eq_mul_right (twoTo_pos 11) same
  have bounded : 11 ≤ 970 := by omega
  rw [ofInt_rounded leastToo mostToo bounded, ofInt_rounded least most bounded, quotient]

/-- Which value is bound depends on what the integer becomes alone. -/
theorem ofJson_eq_iff {m : Int} (carried : Carried n) (other : Carried m) :
    Value.ofJson (.ofInt m) = Value.ofJson (.ofInt n) ↔ nearest m = nearest n := by
  constructor
  · intro same
    have denotes := ofJson_denotes other
    rw [same, ofJson_denotes carried] at denotes
    exact (Option.some_inj.mp denotes).symm
  · intro same
    by_cases equal : m = n
    · rw [equal]
    · -- Only beyond the signed ones do different integers become the same.
      obtain ⟨k, rfl, least, most⟩ := carried.unsigned ((is_nearest n).apart m equal same)
      obtain ⟨l, rfl, leastToo, mostToo⟩ :=
        other.unsigned ((is_nearest m).apart k (Ne.symm equal) same.symm)
      rw [ofJson_unsigned leastToo, ofJson_unsigned least, ofInt_congr least most leastToo mostToo same]

/-- The text of an integer is bound in full, whatever the integer is. -/
theorem text_denotes (n : Int) : denoted? (Value.ofJson (.text (toString n))) = some n :=
  readInt?_toString n

/-- How a statement binds the integer that a request gives under a name. -/
structure Binds (sql name : String) (n : Int) (request : Request) : Prop where
  denotes : ∃ bound, (Statement.bind sql request).params.get? name = some bound ∧
    denoted? bound = some (nearest n)
  alike : ∀ {m : Int} {other : Request}, Carried m → other.get? name = some (.ofInt m) →
    ((Statement.bind sql other).params.get? name = (Statement.bind sql request).params.get? name ↔
      nearest m = nearest n)

theorem bind_ofInt {sql name : String} {request : Request} (referred : name ∈ references sql)
    (given : request.get? name = some (.ofInt n)) :
    (Statement.bind sql request).params.get? name = some (Value.ofJson (.ofInt n)) := by
  rw [bind_get?, if_pos referred, Request.value, given]

/-- **What an integer is bound as.** Under a name that a statement refers to, the value bound for an integer
denotes what becomes of the integer, and another integer is bound alike exactly if the same becomes of it. So
all that fit a signed one are bound exactly and apart, and of those beyond just the multiples are exact. -/
theorem integers_bind_nearest {sql name : String} {request : Request} (carried : Carried n)
    (referred : name ∈ references sql) (given : request.get? name = some (.ofInt n)) :
    Nearest n ∧ Binds sql name n request := by
  have bound := bind_ofInt referred given
  refine ⟨is_nearest n, ⟨_, bound, ofJson_denotes carried⟩, ?_⟩
  intro m other carriedToo givenToo
  rw [bound, bind_ofInt referred givenToo, Option.some_inj]
  exact ofJson_eq_iff carried carriedToo

theorem unsignedKey_bound : Carried 9223372036854775809 ∧ Nearest 9223372036854775809 ∧
    Binds "DELETE FROM notes WHERE id = \x7bid\x7d" "id" 9223372036854775809
      (Request.empty.insert "id" (.ofInt 9223372036854775809)) := by
  have carried : Carried 9223372036854775809 := carried_iff.mpr (by decide)
  have referred : "id" ∈ references "DELETE FROM notes WHERE id = \x7bid\x7d" := by decide +kernel
  exact ⟨carried, integers_bind_nearest carried referred rfl⟩

/-- Two keys that differ by one are bound alike, the greater one as the less. -/
theorem neighbouringKeys_bound_alike :
    Carried 9223372036854775808 ∧ Carried 9223372036854775809 ∧
      denoted? (Value.ofJson (.ofInt 9223372036854775809)) = some 9223372036854775808 ∧
      Value.ofJson (.ofInt 9223372036854775809) = Value.ofJson (.ofInt 9223372036854775808) := by
  refine ⟨carried_iff.mpr (by decide), carried_iff.mpr (by decide), ?_, ?_⟩
  · decide +kernel
  · decide +kernel

end NamedSql.IntegerBinding
