/-!
Decimal numbers with a fixed number of places, written in full.
-/
namespace NamedSql.Decimal

/-- The text of `coefficient / 10^places`: at least one digit before the point, exactly `places`
after it, and no point if there are none. -/
def fixedText (negative : Bool) (coefficient places : Nat) : String :=
  let digits := (toString coefficient).toList
  let digits := List.replicate (places + 1 - digits.length) '0' ++ digits
  let whole := digits.take (digits.length - places)
  let fraction := digits.drop (digits.length - places)
  let point := if places = 0 then [] else ['.']
  String.ofList ((if negative then ['-'] else []) ++ whole ++ point ++ fraction)

/-- The quotient rounded to the nearest natural number, a half upwards. -/
def roundHalfUp (n d : Nat) : Nat := (2 * n + d) / (2 * d)

theorem roundHalfUp_le (n : Nat) {d : Nat} (positive : 0 < d) : roundHalfUp n d ≤ n := by
  have least : 2 * n * 1 ≤ 2 * n * d := Nat.mul_le_mul_left _ positive
  have next : (n + 1) * (2 * d) = 2 * n * d + 2 * d := by
    rw [Nat.add_mul, Nat.one_mul, ← Nat.mul_assoc, Nat.mul_comm n 2]
  have below : (2 * n + d) / (2 * d) < n + 1 := by
    rw [Nat.div_lt_iff_lt_mul (by omega), next]
    omega
  exact Nat.le_of_lt_succ below

end NamedSql.Decimal
