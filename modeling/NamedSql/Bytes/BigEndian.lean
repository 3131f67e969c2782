import NamedSql.Decimal.Power
/-!
Integers as bytes, the most significant first; signed ones in two's complement.
-/
namespace NamedSql.Bytes

/-- The number that the bytes write to base 256. -/
def toNat (bytes : List UInt8) : Nat := bytes.foldl (fun n b => n * 256 + b.toNat) 0

/-- The signed number in two's complement; 0 for no bytes. -/
def toInt (bytes : List UInt8) : Int := Int.bmod (toNat bytes) (twoTo (8 * bytes.length))

/-- The last `width` bytes of a number. -/
def ofNat : Nat → Nat → List UInt8
  | 0, _ => []
  | width + 1, n => ofNat width (n / 256) ++ [UInt8.ofNat n]

/-- The eight bytes of a 64-bit word. -/
def ofUInt64 (n : UInt64) : List UInt8 := ofNat 8 n.toNat

end NamedSql.Bytes
