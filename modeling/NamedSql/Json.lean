import NamedSql.Decimal.Binary64
import NamedSql.Decimal.Power
import NamedSql.Record
/-!
JSON values. A number is an integer when it was written as one that fits 64 bits, signed or
unsigned, and a double otherwise. The members of an object keep their order.
-/
namespace NamedSql

/-- A number of a JSON text. -/
inductive Json.Number where
  | int (n : Int)
  | float (x : Binary64)
deriving DecidableEq, Repr, Inhabited

/-- A JSON value. -/
inductive Json where
  | null
  | bool (b : Bool)
  | number (n : Json.Number)
  | text (s : String)
  | list (items : List Json)
  | object (members : List (String × Json))
deriving Repr, Inhabited

namespace Json

namespace Number

/-- The number as a signed 64-bit integer, if it is one. -/
def toInt64? : Number → Option Int64
  | int n => if fitsBits 64 n then some (Int64.ofInt n) else none
  | float _ => none

/-- The double nearest to the number. -/
def toBinary64 : Number → Binary64
  | int n => Binary64.ofInt n
  | float x => x

end Number

/-- The integer as a JSON value. -/
def ofInt (n : Int) : Json := number (.int n)

/-- The double as a JSON value; JSON has none for an infinity or a NaN. -/
def ofBinary64 (x : Binary64) : Json := if x.isFinite then number (.float x) else null

/-- The object with the members of a record. -/
def ofRecord (r : Record Json) : Json := object r.entries

/-- The value of the member named `key`. -/
def get? (key : String) : Json → Option Json
  | object members => members.lookup key
  | _ => none

/-- The text of a value that is a text. -/
def toText? : Json → Option String
  | text s => some s
  | _ => none

/-- The items of a value that is a list. -/
def toList? : Json → Option (List Json)
  | list items => some items
  | _ => none

end Json

end NamedSql
