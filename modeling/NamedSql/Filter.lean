import NamedSql.Sql.Marker
import NamedSql.Statement
/-!
Filters on one column. A request names a column, an operator and one or two values. The column's
name becomes part of the statement, so it must be one that the operation lists; values are always
bound as parameters. A request that asks for no filter, or for one that is not allowed, gets the
predicate that always holds.
-/
namespace NamedSql

namespace Filter

/-- How a column is compared with the values of a filter. -/
inductive Operator where
  | contains
  | equals
  | startsWith
  | present
  | ne
  | gt
  | gte
  | lt
  | lte
  | between
deriving DecidableEq, Repr

namespace Operator

/-- Every operator. -/
def all : List Operator :=
  [contains, equals, startsWith, present, ne, gt, gte, lt, lte, between]

/-- The name of an operator. -/
def name : Operator → String
  | contains => "contains"
  | equals => "equals"
  | startsWith => "startswith"
  | present => "present"
  | ne => "ne"
  | gt => "gt"
  | gte => "gte"
  | lt => "lt"
  | lte => "lte"
  | between => "between"

/-- The operator of a name, ASCII letters of either case being alike. -/
def ofName? (s : String) : Option Operator :=
  let lower := s.toList.map Char.toLower
  all.find? fun op => op.name.toList == lower

end Operator

/-- What the comparisons `ne`, `gt`, `gte`, `lt` and `lte` bind. -/
inductive Binding where
  /-- The value as it is given. -/
  | exact
  /-- The value followed by a percent sign. -/
  | legacyWildcard
deriving DecidableEq, Repr, Inhabited

/-- The name of a binding. -/
def Binding.name : Binding → String
  | exact => "exact"
  | legacyWildcard => "legacy_wildcard"

/-- The filter fields of a request, as they come. -/
structure Fields where
  column : Option String
  operator : Option String
  value : Option String
  upper : Option String
deriving DecidableEq, Repr

/-- The filter fields of a request. -/
def Fields.ofRequest (r : Request) : Fields where
  column := r.text? "filterBy"
  operator := r.text? "filterOp"
  value := r.text? "filterValue"
  upper := r.text? "filterValueB"

/-- A filter that may be applied. -/
structure Spec where
  column : String
  operator : Operator
  value : String
  /-- The upper bound, which only `between` has. -/
  upper : Option String
deriving DecidableEq, Repr

/-- A field that is there and not empty. -/
def given? (field : Option String) : Option String := field.filter (· ≠ "")

/-- The filter that the fields ask for: the column must be one of `columns`, the operator known,
and for `between` there must be an upper bound. -/
def Spec.ofFields? (fields : Fields) (columns : List String) : Option Spec := do
  let column ← given? fields.column
  let operator ← given? fields.operator
  let value ← given? fields.value
  if column ∉ columns then none
  let operator ← Operator.ofName? operator
  match operator with
  | .between => return ⟨column, operator, value, some (← given? fields.upper)⟩
  | _ => return ⟨column, operator, value, none⟩

/-- The names that a predicate may bind. -/
def parameterNames : List String := ["filterValue", "filterValueA", "filterValueB"]

/-- The predicate that always holds. -/
def alwaysTrue : String := "(1 = 1)"

/-- A predicate with one parameter. -/
def comparing (column comparison value : String) : Statement :=
  ⟨column ++ " " ++ comparison ++ " :filterValue", ⟨[("filterValue", .text value)]⟩⟩

/-- The value that a comparison binds. -/
def Spec.compared (spec : Spec) : Binding → String
  | .exact => spec.value
  | .legacyWildcard => spec.value ++ "%"

/-- The predicate of a filter, and its parameters. -/
def Spec.predicate (spec : Spec) (binding : Binding) : Statement :=
  match spec.operator with
  | .contains => comparing spec.column "LIKE" ("%" ++ spec.value ++ "%")
  | .equals => comparing spec.column "=" spec.value
  | .startsWith => comparing spec.column "LIKE" (spec.value ++ "%")
  | .present => ⟨spec.column ++ " IS NOT NULL", Record.empty⟩
  | .ne => comparing spec.column "!=" (spec.compared binding)
  | .gt => comparing spec.column ">" (spec.compared binding)
  | .gte => comparing spec.column ">=" (spec.compared binding)
  | .lt => comparing spec.column "<" (spec.compared binding)
  | .lte => comparing spec.column "<=" (spec.compared binding)
  | .between =>
    ⟨spec.column ++ " BETWEEN :filterValueA AND :filterValueB",
      ⟨[("filterValueA", .text spec.value), ("filterValueB", .text (spec.upper.getD ""))]⟩⟩

/-- The statement with the predicate in the place of every marker. Parameters are bound only where
there is a marker; without filter fields, or where they ask for no allowed filter, the predicate
always holds. -/
def compile (sql : String) (fields : Option Fields) (columns : List String) (binding : Binding) :
    Statement :=
  match fields.bind (Spec.ofFields? · columns) with
  | none => ⟨Sql.replaceMarkers sql alwaysTrue, Record.empty⟩
  | some spec =>
    let predicate := spec.predicate binding
    ⟨Sql.replaceMarkers sql predicate.text,
      if Sql.hasMarker sql then predicate.params else Record.empty⟩

end Filter

end NamedSql
