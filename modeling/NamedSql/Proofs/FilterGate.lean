import Mathlib.Data.Option.Basic
import NamedSql.Filter

/-! What a request has to give for a filter to be applied. The gate drops whatever fails it without a
word, so a filter that is applied has passed all of it. -/
namespace NamedSql.FilterGate
open NamedSql.Filter

/-- Whether a text names an operator, in any case of its letters. -/
def Names (text : String) (operator : Operator) : Prop :=
  text.toList.map Char.toLower = operator.name.toList.map Char.toLower

/-- Whether a field is there and is a text that is not empty. -/
def Gives (field : Option String) (text : String) : Prop := field = some text ∧ text ≠ ""

/-- Whether the fields of a request ask for a filter on one of the columns and leave nothing out that
its operator needs. -/
structure Asks (fields : Fields) (columns : List String) (spec : Spec) : Prop where
  column : Gives fields.column spec.column
  operator : ∃ name, Gives fields.operator name ∧ Names name spec.operator
  value : Gives fields.value spec.value
  permitted : spec.column ∈ columns
  upper : spec.operator = .between → ∃ upper, Gives fields.upper upper ∧ spec.upper = some upper
  single : spec.operator ≠ .between → spec.upper = none

variable {fields : Fields} {columns : List String} {spec : Spec}

theorem given?_eq_some {field : Option String} {text : String} :
    given? field = some text ↔ Gives field text := by
  simp [given?, Gives, Option.filter_eq_some_iff]

/-- Every operator is found by the name that it has. -/
private theorem ofName?_name (operator : Operator) :
    Operator.ofName? operator.name = some operator := by
  cases operator <;> decide

theorem ofName?_eq_some {text : String} {operator : Operator} :
    Operator.ofName? text = some operator ↔ Names text operator := by
  have lower : operator.name.toList.map Char.toLower = operator.name.toList := by
    cases operator <;> decide
  rw [Names]
  constructor
  · intro found
    have same := List.find?_some found
    rw [beq_iff_eq] at same
    rw [← same, lower, same]
  · intro named
    rw [← ofName?_name operator]
    unfold Operator.ofName?
    rw [named]

/-- **The gate lets through what is asked for in full, and nothing else.** -/
theorem ofFields?_eq_some : Spec.ofFields? fields columns = some spec ↔ Asks fields columns spec := by
  unfold Spec.ofFields?
  simp only [Option.bind_eq_bind, Option.bind_eq_some_iff, given?_eq_some]
  constructor
  · rintro ⟨column, given, name, spelled, value, valued, rest⟩
    split at rest
    · cases rest
    · rename_i permitted
      obtain ⟨operator, named, rest⟩ := Option.bind_eq_some_iff.mp rest
      rw [ofName?_eq_some] at named
      rw [Classical.not_not] at permitted
      split at rest
      · obtain ⟨upper, bounded, same⟩ := Option.bind_eq_some_iff.mp rest
        cases same
        exact ⟨given, ⟨name, spelled, named⟩, valued, permitted,
          fun _ => ⟨upper, given?_eq_some.mp bounded, rfl⟩, fun other => absurd rfl other⟩
      · rename_i other
        cases rest
        exact ⟨given, ⟨name, spelled, named⟩, valued, permitted,
          fun between => absurd between other, fun _ => rfl⟩
  · rintro ⟨given, ⟨name, spelled, named⟩, valued, permitted, upper, single⟩
    obtain ⟨column, operator, value, bound⟩ := spec
    refine ⟨column, given, name, spelled, value, valued, ?_⟩
    rw [if_neg (not_not_intro permitted), ofName?_eq_some.mpr named, Option.bind_some]
    by_cases between : operator = .between
    · obtain ⟨text, bounded, rfl⟩ := upper between
      subst between
      simp only [given?_eq_some.mpr bounded, Option.bind_some]
      rfl
    · obtain rfl := single between
      cases operator with
      | between => exact absurd rfl between
      | _ => rfl

/-- A filter that is applied names one of the permitted columns. -/
theorem ofFields?_column (accepted : Spec.ofFields? fields columns = some spec) :
    spec.column ∈ columns :=
  (ofFields?_eq_some.mp accepted).permitted

/-- Fields that are all given choose any column that is permitted, with any operator. -/
theorem ofFields?_chosen {column value : String} (listed : column ∈ columns) (nonempty : column ≠ "")
    (given : value ≠ "") (operator : Operator) : ∃ upper,
      Spec.ofFields? ⟨some column, some operator.name, some value, some value⟩ columns =
        some ⟨column, operator, value, upper⟩ := by
  have spelled : operator.name ≠ "" := by cases operator <;> decide
  refine ⟨if operator = .between then some value else none, ofFields?_eq_some.mpr ?_⟩
  exact
    { column := ⟨rfl, nonempty⟩
      operator := ⟨operator.name, ⟨rfl, spelled⟩, rfl⟩
      value := ⟨rfl, given⟩
      permitted := listed
      upper := fun between => ⟨value, ⟨rfl, given⟩, if_pos between⟩
      single := fun other => if_neg other }

end NamedSql.FilterGate
