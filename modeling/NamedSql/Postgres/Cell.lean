import NamedSql.Bytes.Base64
import NamedSql.Bytes.Hex
import NamedSql.Decimal.Power
import NamedSql.Json.Draft
import NamedSql.Postgres.Calendar
import NamedSql.Postgres.Numeric
import NamedSql.Text.Utf8
/-!
Values of columns, read from the bytes that the server sends. Exact decimals become texts, so that
no precision is lost. A type that JSON has nothing for is taken for text where its bytes are UTF-8,
and is null where they are not.
-/
namespace NamedSql.Postgres.Cell

/-- A signed integer of one to eight bytes, if it lies within as many bits as its type has. -/
def int? (bits : Nat) (bytes : List UInt8) : Option Int :=
  if bytes.isEmpty ∨ 8 < bytes.length then none
  else
    let n := Bytes.toInt bytes
    if fitsBits bits n then some n else none

/-- The first `count` bytes, if there are as many. -/
def first? (count : Nat) (bytes : List UInt8) : Option (List UInt8) :=
  if bytes.length < count then none else some (bytes.take count)

/-- An amount of money, which is sent in cents. -/
def moneyText (cents : Int) : String := Decimal.fixedText (cents < 0) cents.natAbs 2

/-- The text of a UUID. -/
def uuidText? (bytes : List UInt8) : Option String :=
  if bytes.length = 16 then
    let part (start count : Nat) : String := Bytes.toHex ((bytes.drop start).take count)
    some ("-".intercalate [part 0 4, part 4 2, part 6 2, part 8 2, part 10 6])
  else none

/-- A JSON text. -/
def json? (bytes : List UInt8) : Option Json := (Text.Utf8.decode? bytes).bind Json.parse?

/-- A JSON text after the mark of its version. -/
def versionedJson? : List UInt8 → Option Json
  | version :: bytes => if version = 1 then json? bytes else none
  | [] => none

/-- A length of time in its three independent parts. -/
def interval? (bytes : List UInt8) : Option Json := do
  let bytes ← first? 16 bytes
  return .object
    [("months", .ofInt (Bytes.toInt (bytes.drop 12))),
      ("days", .ofInt (Bytes.toInt ((bytes.drop 8).take 4))),
      ("microseconds", .ofInt (Bytes.toInt (bytes.take 8)))]

/-- Reads a value of a type. -/
def read? (type : String) (bytes : List UInt8) : Option Json :=
  match type with
  | "BOOL" => (first? 1 bytes).map fun b => .bool (b != [0])
  | "INT2" => (int? 16 bytes).map .ofInt
  | "INT4" => (int? 32 bytes).map .ofInt
  | "INT8" => (int? 64 bytes).map .ofInt
  | "OID" => (first? 4 bytes).map fun b => .ofInt (Bytes.toNat b)
  | "FLOAT4" =>
    (first? 4 bytes).map fun b => .ofBinary64 (.ofSingle (UInt32.ofNat (Bytes.toNat b)))
  | "FLOAT8" => (first? 8 bytes).map fun b => .ofBinary64 ⟨UInt64.ofNat (Bytes.toNat b)⟩
  | "NUMERIC" => some (((Numeric.ofBytes? bytes).bind Numeric.text?).elim .null .text)
  | "MONEY" => (first? 8 bytes).map fun b => .text (moneyText (Bytes.toInt b))
  | "TEXT" | "VARCHAR" | "NAME" | "CITEXT" => (Text.Utf8.decode? bytes).map .text
  | "JSON" => json? bytes
  | "JSONB" => versionedJson? bytes
  | "UUID" => (uuidText? bytes).map .text
  | "TIMESTAMPTZ" => do
    let micros ← int? 64 bytes
    let instant ← instantText? "T" micros
    return .text (instant ++ "+00:00")
  | "TIMESTAMP" => ((int? 64 bytes).bind (instantText? " ")).map .text
  | "DATE" => ((int? 32 bytes).bind dateText?).map .text
  | "TIME" => (int? 64 bytes).map fun micros => .text (timeText micros)
  | "INTERVAL" => interval? bytes
  | "BYTEA" => some (.text (Bytes.toBase64 bytes))
  | _ => some ((Text.Utf8.decode? bytes).elim .null .text)

end NamedSql.Postgres.Cell
