/-!
Bytes in the standard Base64 alphabet, padded to whole groups of four characters.
-/
namespace NamedSql.Bytes

/-- The character of six bits. -/
def base64Digit (n : Nat) : Char :=
  Char.ofNat (
    if n < 26 then n + 65 else if n < 52 then n + 71 else if n < 62 then n - 4
    else if n = 62 then 43 else 47)

/-- Three bytes give four characters; one or two left over give two or three and padding. -/
def base64Digits : List UInt8 → List Char
  | [] => []
  | [a] =>
    let n := a.toNat * 16
    [base64Digit (n / 64), base64Digit (n % 64), '=', '=']
  | [a, b] =>
    let n := (a.toNat * 256 + b.toNat) * 4
    [base64Digit (n / 4096), base64Digit (n / 64 % 64), base64Digit (n % 64), '=']
  | a :: b :: c :: rest =>
    let n := (a.toNat * 256 + b.toNat) * 256 + c.toNat
    base64Digit (n / 262144) :: base64Digit (n / 4096 % 64) :: base64Digit (n / 64 % 64) ::
      base64Digit (n % 64) :: base64Digits rest

/-- The bytes in Base64. -/
def toBase64 (bytes : List UInt8) : String := String.ofList (base64Digits bytes)

end NamedSql.Bytes
