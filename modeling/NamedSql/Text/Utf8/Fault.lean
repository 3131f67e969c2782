import NamedSql.Text.Utf8
/-!
Where bytes stop being UTF-8: at the first character that a byte does not begin or continue, or that
the bytes end within.
-/
namespace NamedSql.Text.Utf8

/-- The first bytes that are no character. -/
inductive Fault where
  /-- So many bytes, from a place on, that nothing could make a character of. -/
  | invalid (length index : Nat)
  /-- The bytes from a place on only begin a character. -/
  | incomplete (index : Nat)
deriving Repr, DecidableEq

/-- Looks for a fault in bytes of which the first is at a place. A character may be under way, of
which so many bytes have been read. -/
def faultFrom (index : Nat) : Option (Started × Nat) → List UInt8 → Option Fault
  | none, [] => none
  | some (_, count), [] => some (.incomplete (index - count))
  | none, b :: rest =>
    match opening b with
    | .whole _ => faultFrom (index + 1) none rest
    | .started part => faultFrom (index + 1) (some (part, 1)) rest
    | .invalid => some (.invalid 1 index)
  | some (part, count), b :: rest =>
    if part.low ≤ b.toNat ∧ b.toNat ≤ part.high then
      if part.missing ≤ 1 then faultFrom (index + 1) none rest
      else faultFrom (index + 1) (some (⟨0, part.missing - 1, 0x80, 0xBF⟩, count + 1)) rest
    else some (.invalid count (index - count))

/-- The first fault in bytes. -/
def fault? (bytes : List UInt8) : Option Fault := faultFrom 0 none bytes

/-- The text of a fault. -/
def Fault.message : Fault → String
  | invalid length index =>
    "invalid utf-8 sequence of " ++ toString length ++ " bytes from index " ++ toString index
  | incomplete index => "incomplete utf-8 byte sequence from index " ++ toString index

end NamedSql.Text.Utf8
