import NamedSql.Json.Draft
/-!
Reading structures from drafts. A structure is written as an object, its fields in any order and
unknown members passed over, or as the list of its fields' values. A field may go by several names
but is given once.
-/
namespace NamedSql.Json.Draft

/-- A field of a structure: its name, and the other names it goes by. -/
structure Field where
  name : String
  others : List String := []

/-- Whether a member of that name gives the field. -/
def Field.isNamed (field : Field) (key : String) : Bool := key = field.name || key ∈ field.others

/-- The fields found so far, and the one that a member gives. -/
def addMember (fields : List Field) (found : Record Draft) (member : Option String × Draft) :
    Option (Record Draft) := do
  let key ← member.1
  match fields.find? (·.isNamed key) with
  | none => return found
  | some field =>
    if found.contains field.name then none else return found.insert field.name member.2

/-- The fields that a draft gives, by their names. In a list the last ones may be missing only if
the structure has a value for each that is not given. -/
def fields? (fields : List Field) (complete : Bool) : Draft → Option (Record Draft)
  | object members => members.foldlM (addMember fields) Record.empty
  | list items =>
    if fields.length < items.length ∨ (complete ∧ items.length < fields.length) then none
    else some (Record.ofList ((fields.map Field.name).zip items))
  | _ => none

/-- A text. -/
def text? : Draft → Option String
  | text s => s
  | _ => none

/-- A truth value. -/
def bool? : Draft → Option Bool
  | bool b => some b
  | _ => none

/-- An integer from `least` to `greatest`. -/
def int? (least greatest : Int) : Draft → Option Int
  | number (some (.int n)) => if least ≤ n ∧ n ≤ greatest then some n else none
  | _ => none

/-- A natural number below `bound`. -/
def nat? (bound : Nat) (d : Draft) : Option Nat := (d.int? 0 (bound - 1)).map Int.toNat

/-- A list of texts. -/
def texts? : Draft → Option (List String)
  | list items => items.mapM text?
  | _ => none

/-- One of several things, by its name. The name may also be the only member of an object, with
nothing under it. -/
def choice? {α : Type} (choices : List (String × α)) : Draft → Option α
  | text (some s) => choices.lookup s
  | object [(some s, null)] => choices.lookup s
  | _ => none

/-- What may be null. -/
def nullable? {α : Type} (read? : Draft → Option α) : Draft → Option (Option α)
  | null => some none
  | d => (read? d).map some

/-- A field's value; the default if the field is not given. -/
def valueOf? {α : Type} (found : Record Draft) (name : String) (fallback : α)
    (read? : Draft → Option α) : Option α :=
  match found.get? name with
  | none => some fallback
  | some d => read? d

end NamedSql.Json.Draft
