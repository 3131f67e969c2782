import NamedSql.Json.Number
import NamedSql.Json.Text
/-!
The compact text of a JSON value: no blanks, members in their order.
-/
namespace NamedSql.Json

mutual

/-- `before` followed by the text of a value. -/
def append (before : String) : Json → String
  | null => before ++ "null"
  | bool b => before ++ (if b then "true" else "false")
  | number n => before ++ n.write
  | text s => before ++ Text.quote s
  | list items => (appendItems (before.push '[') true items).push ']'
  | object members => (appendMembers (before.push '\x7b') true members).push '\x7d'

/-- `before` followed by the texts of items, with commas between them. -/
def appendItems (before : String) (first : Bool) : List Json → String
  | [] => before
  | j :: rest => appendItems (append (if first then before else before.push ',') j) false rest

/-- `before` followed by the texts of members, with commas between them. -/
def appendMembers (before : String) (first : Bool) : List (String × Json) → String
  | [] => before
  | (key, j) :: rest =>
    let before := if first then before else before.push ','
    appendMembers (append ((before ++ Text.quote key).push ':') j) false rest

end

/-- The compact text of a value. -/
def render (j : Json) : String := append "" j

end NamedSql.Json
