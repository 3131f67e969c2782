/-!
Powers of the bases of numbers: two for their bits, ten for their digits.
-/
namespace NamedSql

/-- A power of two. -/
def twoTo (n : Nat) : Nat := Nat.pow 2 n

/-- A power of ten. -/
def tenTo (n : Nat) : Nat := Nat.pow 10 n

theorem tenTo_pos (n : Nat) : 0 < tenTo n := Nat.pow_pos (by decide)

/-- Whether an integer can be held in so many bits, one of which is its sign. -/
def fitsBits (bits : Nat) (n : Int) : Bool := -(twoTo (bits - 1)) ≤ n && n < twoTo (bits - 1)

end NamedSql
