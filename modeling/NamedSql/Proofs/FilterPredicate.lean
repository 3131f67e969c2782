import NamedSql.Operation
import NamedSql.Proofs.MarkerSplicing

/-! The predicate of a filter is fixed by its column and its operator: they decide its text and the
names it binds, and the values of the filter occur in neither. For a column with a column's name the
text is inert, so it can stand in the place of a marker anywhere in a statement. -/
namespace NamedSql.FilterPredicate
open Sql MarkerSplicing NamedSql.Filter

/-- The names that the predicate of an operator binds. -/
def boundNames : Operator → List String
  | .present => []
  | .between => ["filterValueA", "filterValueB"]
  | _ => ["filterValue"]

/-- What the predicate of an operator writes behind the column. -/
def comparisonText : Operator → String
  | .contains | .startsWith => " LIKE :filterValue"
  | .equals => " = :filterValue"
  | .present => " IS NOT NULL"
  | .ne => " != :filterValue"
  | .gt => " > :filterValue"
  | .gte => " >= :filterValue"
  | .lt => " < :filterValue"
  | .lte => " <= :filterValue"
  | .between => " BETWEEN :filterValueA AND :filterValueB"

theorem predicate_text (spec : Spec) (binding : Binding) :
    (spec.predicate binding).text = spec.column ++ comparisonText spec.operator := by
  obtain ⟨column, operator, value, upper⟩ := spec
  cases operator <;> simp [Spec.predicate, comparing, comparisonText, String.append_assoc]

theorem predicate_names (spec : Spec) (binding : Binding) :
    (spec.predicate binding).params.names = boundNames spec.operator := by
  obtain ⟨column, operator, value, upper⟩ := spec
  cases operator <;> rfl

theorem boundNames_nodup (operator : Operator) : (boundNames operator).Nodup := by
  cases operator <;> decide

/-- A predicate binds no name that is not reserved for filters. -/
theorem boundNames_reserved (operator : Operator) {name : String}
    (bound : name ∈ boundNames operator) : name ∈ parameterNames := by
  have reserved : ∀ n ∈ boundNames operator, n ∈ parameterNames := by cases operator <;> decide
  exact reserved name bound

private theorem comparisonText_quiet (operator : Operator) :
    ∀ c ∈ (comparisonText operator).toList, c ∉ activeChars := by
  have quiet : (comparisonText operator).toList.all (· ∉ activeChars) = true := by
    cases operator <;> decide
  intro c member
  exact of_decide_eq_true (List.all_eq_true.mp quiet c member)

private theorem comparisonText_unnamed (operator : Operator) :
    ∃ c ∈ (comparisonText operator).toList, isNameChar c = false := by
  refine ⟨' ', ?_, by decide⟩
  cases operator <;> decide

/-- A column's name is made of name characters and dots. -/
theorem columnName_chars {column : String} (valid : Operation.isColumnName column = true) :
    ∀ c ∈ column.toList, isNameChar c = true ∨ c = '.' := by
  intro c member
  unfold Operation.isColumnName at valid
  split at valid
  · cases valid
  · rename_i first rest characters
    rw [characters] at member
    simp only [Bool.and_eq_true, List.all_eq_true, Bool.or_eq_true, decide_eq_true_eq] at valid
    rcases List.mem_cons.mp member with rfl | later
    · left
      simp only [isNameStart, isNameChar, Char.isAlphanum, Bool.or_eq_true] at valid ⊢
      exact valid.1.imp_left Or.inl
    · exact valid.2 c later

/-- None of them is active. -/
theorem columnName_quiet {column : String} (valid : Operation.isColumnName column = true) :
    ∀ c ∈ column.toList, c ∉ activeChars := by
  intro c member
  rcases columnName_chars valid c member with named | rfl
  · exact nameChar_passive named
  · decide

/-- None of them is a colon. -/
theorem columnName_uncoloned {column : String} (valid : Operation.isColumnName column = true) :
    ':' ∉ column.toList := by
  intro member
  rcases columnName_chars valid ':' member with named | dot
  · exact absurd named (by decide)
  · exact absurd dot (by decide)

theorem predicate_inert {spec : Spec} (valid : Operation.isColumnName spec.column = true)
    (binding : Binding) : Inert (spec.predicate binding).text.toList := by
  rw [predicate_text, String.toList_append]
  constructor
  · intro c member
    rcases List.mem_append.mp member with inColumn | behind
    · exact columnName_quiet valid c inColumn
    · exact comparisonText_quiet _ c behind
  · obtain ⟨c, member, unnamed⟩ := comparisonText_unnamed spec.operator
    exact ⟨c, List.mem_append_right _ member, unnamed⟩

theorem alwaysTrue_inert : Inert alwaysTrue.toList := by
  constructor
  · simp [alwaysTrue, activeChars]
  · simp [alwaysTrue, isNameChar]

/-- What a filter puts in the place of every marker: a comparison of a column, or else the predicate
that always holds. -/
def filterText : Option (String × Operator) → String
  | none => alwaysTrue
  | some (column, operator) => column ++ comparisonText operator

/-- The names that a filter binds. -/
def filterBound : Option (String × Operator) → List String
  | none => []
  | some (_, operator) => boundNames operator

theorem filterBound_reserved {filter : Option (String × Operator)} {name : String}
    (bound : name ∈ filterBound filter) : name ∈ parameterNames := by
  cases filter with
  | none => cases bound
  | some choice => exact boundNames_reserved choice.2 bound

/-- Whether the column of a filter, if there is one, has a column's name. -/
def NamesColumn (filter : Option (String × Operator)) : Prop :=
  ∀ column operator, filter = some (column, operator) → Operation.isColumnName column = true

theorem filterText_inert {filter : Option (String × Operator)} (valid : NamesColumn filter) :
    Inert (filterText filter).toList := by
  cases filter with
  | none => exact alwaysTrue_inert
  | some choice =>
    obtain ⟨column, operator⟩ := choice
    let spec : Spec := ⟨column, operator, "", none⟩
    have named : Operation.isColumnName spec.column = true := valid column operator rfl
    have inert := predicate_inert named .exact
    rwa [predicate_text] at inert

end NamedSql.FilterPredicate
