/-!
Reading bytes as UTF-8 when some may not be: each longest beginning of a character that the next
byte does not continue becomes one U+FFFD, and so does each byte that begins no character.
-/
namespace NamedSql.Text.Utf8

/-- A character of which some bytes have been read. -/
structure Started where
  /-- The bits read so far. -/
  code : Nat
  /-- The bytes still to come. -/
  missing : Nat
  /-- The least value of the next byte. -/
  low : Nat
  /-- The greatest value of the next byte. -/
  high : Nat

/-- What a byte begins: a whole character, a longer one, or nothing. -/
inductive Opening where
  | whole (c : Char)
  | started (part : Started)
  | invalid

/-- Overlong forms, surrogates and codes above U+10FFFF are excluded by the range of the second
byte. -/
def opening (b : UInt8) : Opening :=
  let n := b.toNat
  if n < 0x80 then .whole (Char.ofNat n)
  else if n < 0xC2 then .invalid
  else if n < 0xE0 then .started ⟨n - 0xC0, 1, 0x80, 0xBF⟩
  else if n = 0xE0 then .started ⟨0, 2, 0xA0, 0xBF⟩
  else if n = 0xED then .started ⟨0xD, 2, 0x80, 0x9F⟩
  else if n < 0xF0 then .started ⟨n - 0xE0, 2, 0x80, 0xBF⟩
  else if n = 0xF0 then .started ⟨0, 3, 0x90, 0xBF⟩
  else if n < 0xF4 then .started ⟨n - 0xF0, 3, 0x80, 0xBF⟩
  else if n = 0xF4 then .started ⟨4, 3, 0x80, 0x8F⟩
  else .invalid

/-- The character that stands for bytes that are none. -/
def replacement : Char := Char.ofNat 0xFFFD

/-- Reads on from a character that may be under way. -/
def decodeFrom : Option Started → List UInt8 → List Char
  | none, [] => []
  | some _, [] => [replacement]
  | part, b :: rest =>
    let begin (_ : Unit) : List Char :=
      match opening b with
      | .whole c => c :: decodeFrom none rest
      | .started next => decodeFrom (some next) rest
      | .invalid => replacement :: decodeFrom none rest
    match part with
    | none => begin ()
    | some p =>
      if p.low ≤ b.toNat ∧ b.toNat ≤ p.high then
        let code := p.code * 64 + (b.toNat - 0x80)
        if p.missing ≤ 1 then Char.ofNat code :: decodeFrom none rest
        else decodeFrom (some ⟨code, p.missing - 1, 0x80, 0xBF⟩) rest
      else replacement :: begin ()

/-- The text of the bytes, with U+FFFD for what is no UTF-8. -/
def decodeLossy (bytes : List UInt8) : String := String.ofList (decodeFrom none bytes)

/-- The text of the bytes, if they are UTF-8. -/
def decode? (bytes : List UInt8) : Option String := String.fromUTF8? (ByteArray.mk bytes.toArray)

/-- The bytes of a text. -/
def encode (s : String) : List UInt8 := s.toUTF8.data.toList

end NamedSql.Text.Utf8
