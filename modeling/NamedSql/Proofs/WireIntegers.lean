import NamedSql.Postgres.Numeric

/-! Integers in the bytes that the server sends, and decimal numbers made of them. What is written in two's
complement is read as the integer itself, and a decimal number is read from the words of its own wire form. -/
namespace NamedSql.WireIntegers
open Postgres

variable {width : Nat} {n : Int}

/-- A signed integer in so many bytes, in two's complement. -/
def ofInt (width : Nat) (n : Int) : List UInt8 := Bytes.ofNat width (n % twoTo (8 * width)).toNat

private theorem length_ofNat (width n : Nat) : (Bytes.ofNat width n).length = width := by
  induction width generalizing n with
  | zero => rfl
  | succ width ih => simp [Bytes.ofNat, ih]

/-- The last bytes of a number are what is left of it. -/
private theorem toNat_ofNat (width n : Nat) :
    Bytes.toNat (Bytes.ofNat width n) = n % twoTo (8 * width) := by
  induction width generalizing n with
  | zero => exact (Nat.mod_one n).symm
  | succ width ih =>
    have bytes : Bytes.toNat (Bytes.ofNat (width + 1) n) =
        Bytes.toNat (Bytes.ofNat width (n / 256)) * 256 + n % 256 := by
      simp [Bytes.toNat, Bytes.ofNat]
    have power : twoTo (8 * (width + 1)) = 256 * twoTo (8 * width) := by
      rw [twoTo, Nat.mul_add, Nat.pow_eq, Nat.pow_add, Nat.mul_comm]
      rfl
    rw [bytes, ih, power, Nat.mod_mul, Nat.mul_comm, Nat.add_comm]

theorem length_ofInt (width : Nat) (n : Int) : (ofInt width n).length = width := length_ofNat _ _

private theorem toNat_ofInt (width : Nat) (n : Int) :
    (Bytes.toNat (ofInt width n) : Int) = n % twoTo (8 * width) := by
  have positive : (0 : Int) < twoTo (8 * width) := Int.natCast_pos.mpr (Nat.two_pow_pos _)
  have least := Int.emod_nonneg n (Int.ne_of_gt positive)
  have most := Int.emod_lt_of_pos n positive
  rw [ofInt, toNat_ofNat, Nat.mod_eq_of_lt (by omega), Int.toNat_of_nonneg least]

theorem toInt_ofInt (least : -(twoTo (8 * width) : Int) ≤ 2 * n) (most : 2 * n < twoTo (8 * width)) :
    Bytes.toInt (ofInt width n) = n := by
  rw [Bytes.toInt, length_ofInt, toNat_ofInt, Int.emod_bmod]
  exact Int.bmod_eq_of_le_mul_two (by omega) (by omega)

/-- A word of 16 bits. -/
def word (n : Int) : List UInt8 := ofInt 2 n

private theorem toInt_word (least : -32768 ≤ n) (most : n < 32768) : Bytes.toInt (word n) = n := by
  have power : twoTo (8 * 2) = 65536 := rfl
  exact toInt_ofInt (by rw [power]; omega) (by rw [power]; omega)

private theorem toNat_word {n : Nat} (most : n < 65536) : Bytes.toNat (word n) = n := by
  have value := toNat_ofInt 2 n
  have power : twoTo (8 * 2) = 65536 := rfl
  rw [power] at value
  rw [word]
  omega

private theorem word_bytes (n : Int) : ∃ a b, word n = [a, b] := ⟨_, _, rfl⟩

/-- The wire form of a decimal number. -/
def numericBytes (n : Numeric) : List UInt8 :=
  word n.groups.length ++ word n.weight ++ word n.sign ++ word n.places ++ n.groups.flatMap word

/-- A decimal number that the wire form has room for, with four decimal digits in each group. -/
structure Sent (n : Numeric) : Prop where
  weight : -32768 ≤ n.weight ∧ n.weight < 32768
  sign : n.sign < 65536
  places : -32768 ≤ n.places ∧ n.places < 32768
  count : n.groups.length < 65536
  digits : ∀ group ∈ n.groups, 0 ≤ group ∧ group < 10000

private theorem words?_groups (groups : List Int) :
    Numeric.words? groups.length (groups.flatMap word) = some (groups.map word) := by
  induction groups with
  | nil => rfl
  | cons group rest ih =>
    obtain ⟨a, b, bytes⟩ := word_bytes group
    rw [List.flatMap_cons, List.map_cons, bytes]
    change (Numeric.words? rest.length (rest.flatMap word)).map ([a, b] :: ·) = _
    rw [ih]
    rfl

private theorem groups_read {groups : List Int} (digits : ∀ group ∈ groups, 0 ≤ group ∧ group < 10000) :
    (groups.map word).map Bytes.toInt = groups := by
  induction groups with
  | nil => rfl
  | cons group rest ih =>
    obtain ⟨least, most⟩ := digits group List.mem_cons_self
    rw [List.map_cons, List.map_cons, toInt_word (by omega) (by omega),
      ih fun group member => digits group (List.mem_cons_of_mem _ member)]

/-- A decimal number is read from its wire form. -/
theorem ofBytes?_numericBytes {n : Numeric} (sent : Sent n) :
    Numeric.ofBytes? (numericBytes n) = some n := by
  obtain ⟨c₁, c₂, countBytes⟩ := word_bytes n.groups.length
  obtain ⟨w₁, w₂, weightBytes⟩ := word_bytes n.weight
  obtain ⟨s₁, s₂, signBytes⟩ := word_bytes n.sign
  obtain ⟨p₁, p₂, placesBytes⟩ := word_bytes n.places
  have count := toNat_word sent.count
  have weight := toInt_word sent.weight.1 sent.weight.2
  have sign := toNat_word sent.sign
  have places := toInt_word sent.places.1 sent.places.2
  rw [countBytes] at count
  rw [weightBytes] at weight
  rw [signBytes] at sign
  rw [placesBytes] at places
  rw [numericBytes, countBytes, weightBytes, signBytes, placesBytes]
  simp only [List.cons_append, List.nil_append, Numeric.ofBytes?, count, weight, sign, places, words?_groups,
    Option.bind_eq_bind, Option.bind_some, groups_read sent.digits]
  rfl

end NamedSql.WireIntegers
