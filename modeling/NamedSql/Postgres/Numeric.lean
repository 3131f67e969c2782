import NamedSql.Bytes.BigEndian
import NamedSql.Decimal.Decimal96
/-!
Decimal numbers as the server sends them: groups of four decimal digits, the weight of the first
group as a power of 10000, a sign and a number of places. They are read as the database library converts
them to its decimals of 96 bits: the power of 10000 is taken for each group and multiplied by it, and the
products are added up one after the other, so a number that has more digits is rounded on the way. The sum
is written with the places of the number, or as many as can be held. A number that is none (NaN and the
infinities) has no text, nor one for which a power, a product or a sum cannot be held: a power cannot where
a group is too far from the point on either side, and a product where the first group is 8 or more at the
greatest weight, since 8 * 10^28 is beyond 96 bits.
-/
namespace NamedSql.Postgres

/-- A decimal number as the server sends it. -/
structure Numeric where
  weight : Int
  sign : Nat
  places : Int
  groups : List Int
deriving DecidableEq, Repr

namespace Numeric

/-- The 16-bit words that bytes begin with, as many as `count`. -/
def words? : Nat → List UInt8 → Option (List (List UInt8))
  | 0, _ => some []
  | count + 1, a :: b :: rest => (words? count rest).map ([a, b] :: ·)
  | _ + 1, _ => none

/-- Reads the wire form. -/
def ofBytes? : List UInt8 → Option Numeric
  | c₁ :: c₂ :: w₁ :: w₂ :: s₁ :: s₂ :: p₁ :: p₂ :: rest => do
    let groups ← words? (Bytes.toNat [c₁, c₂]) rest
    return ⟨Bytes.toInt [w₁, w₂], Bytes.toNat [s₁, s₂], Bytes.toInt [p₁, p₂],
      groups.map Bytes.toInt⟩
  | _ => none

/-- The mark of a negative number. -/
def negative : Nat := 0x4000

/-- How far from zero the weight of a group may be for the power of 10000 to be held, or its inverse. -/
def weightLimit : Nat := 7

/-- What a group of a weight counts. -/
def part? (weight group : Int) : Option Decimal96 :=
  if weight.natAbs ≤ weightLimit then
    Decimal96.make? (group * tenTo (4 * weight.toNat)) (4 * (-weight).toNat)
  else none

/-- The sum of groups, the first of which has a weight, and of what comes before them. -/
def sum? : Int → Decimal96 → List Int → Option Decimal96
  | _, sum, [] => some sum
  | weight, sum, group :: rest => do
    let part ← part? weight group
    let sum ← sum.add? part
    sum? (weight - 1) sum rest

/-- The text of a number, if it has one. -/
def text? (n : Numeric) : Option String :=
  if n.sign ≠ 0 ∧ n.sign ≠ negative then none
  else if n.groups.isEmpty then some "0"
  else if n.places < 0 then none
  else (sum? n.weight .zero n.groups).map fun sum =>
    (sum.rescale n.places.toNat).text (n.sign = negative)

end Numeric

end NamedSql.Postgres
