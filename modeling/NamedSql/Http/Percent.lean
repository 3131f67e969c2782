import NamedSql.Bytes.Hex
import NamedSql.Text.Utf8
/-!
Percent-encoded text. A percent sign and two hexadecimal digits stand for a byte; a percent sign
that is not followed by two stands for itself.
-/
namespace NamedSql.Http

/-- The byte of a character below 256. -/
def percent : UInt8 := UInt8.ofNat '%'.toNat

/-- The value of a byte that is a hexadecimal digit. -/
def hexByte? (b : UInt8) : Option Nat := Bytes.hexValue? (Char.ofNat b.toNat)

/-- The byte that two hexadecimal digits write. -/
def escaped? (high low : UInt8) : Option UInt8 := do
  let high ← hexByte? high
  let low ← hexByte? low
  return UInt8.ofNat (high * 16 + low)

/-- The bytes that percent-encoded bytes stand for, after the ones in `done` in reverse. -/
def percentDecodeFrom : List UInt8 → List UInt8 → List UInt8
  | [], done => done.reverse
  | [a], done => (a :: done).reverse
  | [a, b], done => (b :: a :: done).reverse
  | a :: b :: c :: rest, done =>
    if a = percent then
      match escaped? b c with
      | some byte => percentDecodeFrom rest (byte :: done)
      | none => percentDecodeFrom (b :: c :: rest) (a :: done)
    else percentDecodeFrom (b :: c :: rest) (a :: done)

/-- The bytes that percent-encoded bytes stand for. -/
def percentDecode (bytes : List UInt8) : List UInt8 := percentDecodeFrom bytes []

end NamedSql.Http
