import NamedSql.Text.Blank
import NamedSql.Text.Integer
import NamedSql.Value
/-!
The values that come with a request: the texts of the query string, overlaid by the members of a
JSON object. Each reader takes what it can from whatever kind of value is there.
-/
namespace NamedSql

/-- The named values of a request. -/
structure Request where
  fields : Record Json
deriving Inhabited

namespace Request

/-- A request without values. -/
def empty : Request := ⟨Record.empty⟩

/-- The request of the pairs of a query string; of pairs with one name the last counts. -/
def ofPairs (pairs : List (String × String)) : Request :=
  ⟨Record.ofList (pairs.map fun pair => (pair.1, Json.text pair.2))⟩

/-- The request with a value under a name. -/
def insert (r : Request) (name : String) (j : Json) : Request := ⟨r.fields.insert name j⟩

/-- The request overlaid by the members of an object; any other value changes nothing. -/
def overlay (r : Request) : Json → Request
  | .object members => ⟨r.fields.insertAll members⟩
  | _ => r

/-- The value under a name. -/
def get? (r : Request) (name : String) : Option Json := r.fields.get? name

/-- The value under a name as a text; null, lists and objects give none. -/
def text? (r : Request) (name : String) : Option String :=
  match r.get? name with
  | some (.text s) => some s
  | some (.number n) => some n.write
  | some (.bool b) => some (if b then "true" else "false")
  | _ => none

/-- The value under a name as an integer: a number with its fraction cut off and confined to 64
bits, or a text that is an integer of 64 bits between blanks; anything else is 0. -/
def int (r : Request) (name : String) : Int64 :=
  match r.get? name with
  | some (.number n) => n.toInt64?.getD n.toBinary64.toInt64
  | some (.text s) => (Text.readInt64? (Text.trim s.toList)).getD 0
  | _ => 0

/-- What a parameter of that name binds: the value under it, or null. -/
def value (r : Request) (name : String) : Value :=
  match r.get? name with
  | some j => Value.ofJson j
  | none => .null

end Request

end NamedSql
