import NamedSql.Proofs.FilterGate
import NamedSql.Proofs.FilterSeams
import NamedSql.Proofs.MarkerSegments

/-! A filter is compiled to a text and to the parameters for it, each written by itself. They fit: the
placeholders that the text has are those that the operator writes behind the column, whatever column
stands there, and the values are put in nowhere but where they are bound. -/
namespace NamedSql.FilterCompilation
open Sql MarkerSplicing BoundValues ParameterNames FilterGate FilterPredicate FilterSeams MarkerSegments
open NamedSql.Filter

/-- The texts that a filter compares its column with. -/
def boundTexts (spec : Spec) (binding : Binding) : List String :=
  match spec.operator with
  | .contains => ["%" ++ spec.value ++ "%"]
  | .startsWith => [spec.value ++ "%"]
  | .equals => [spec.value]
  | .present => []
  | .between => spec.value :: spec.upper.toList
  | .ne | .gt | .gte | .lt | .lte =>
    match binding with
    | .exact => [spec.value]
    | .legacyWildcard => [spec.value ++ "%"]

/-- The parameters of a filter. -/
def boundParams (spec : Spec) (binding : Binding) : Params :=
  ⟨(boundNames spec.operator).zip ((boundTexts spec binding).map .text)⟩

/-- Whether parameters are just what a text asks for: it has one placeholder for each of them, and
however placeholders are written, it is expanded to the values. -/
structure Supplies (sql : String) (params : Params) (values : List Value) : Prop where
  asked : placeholderNames sql.toList = params.names
  once : params.names.Nodup
  expanded : ∀ render, ∃ text, expand sql params render = .ok ⟨text, values⟩

/-- What a template is compiled to with a filter that is applied. Nothing is said about what a column
with another name than a column's would do to the text that it is put into. -/
structure Applied (sql : String) (spec : Spec) (binding : Binding) (compiled : Statement) : Prop where
  text : Splices sql (spec.column ++ comparisonText spec.operator) compiled.text
  marked : hasMarker sql = true → compiled.params = boundParams spec binding
  unmarked : hasMarker sql = false → compiled.params = Record.empty
  supplied : Operation.isColumnName spec.column = true →
    Supplies (spec.column ++ comparisonText spec.operator) (boundParams spec binding)
      ((boundTexts spec binding).map .text)

/-- What a template is compiled to without a filter. -/
structure Unfiltered (sql : String) (compiled : Statement) : Prop where
  text : Splices sql "(1 = 1)" compiled.text
  unbound : compiled.params = Record.empty

variable {sql : String} {spec : Spec} {binding : Binding} {params : Params}

/-- A text that asks for each parameter once, in their order, is expanded to their values. -/
theorem supplies_of_asked (asked : placeholderNames sql.toList = params.names)
    (once : params.names.Nodup) : Supplies sql params (params.entries.map Prod.snd) := by
  refine ⟨asked, once, fun render => ?_⟩
  have values := expand_values sql params render
  rw [asked, boundValues_eq_ok.mpr (map_get?_names once)] at values
  cases expanded : expand sql params render with
  | error unbound =>
    rw [expanded] at values
    cases values
  | ok expansion =>
    obtain ⟨text, listed⟩ := expansion
    rw [expanded] at values
    obtain rfl : listed = _ := Except.ok.inj values
    exact ⟨text, rfl⟩

/-- Whether a filter has the upper bound that its operator needs. -/
def Bounded (spec : Spec) : Prop := spec.operator = .between → ∃ upper, spec.upper = some upper

theorem bounded_of_asks {fields : Fields} {columns : List String} (asks : Asks fields columns spec) :
    Bounded spec := by
  intro between
  obtain ⟨upper, _, same⟩ := asks.upper between
  exact ⟨upper, same⟩

/-- There is a text for each name that a filter binds. -/
theorem boundTexts_length (bounded : Bounded spec) (binding : Binding) :
    (boundTexts spec binding).length = (boundNames spec.operator).length := by
  obtain ⟨column, operator, value, upper⟩ := spec
  cases operator with
  | between =>
    obtain ⟨text, rfl⟩ := bounded rfl
    rfl
  | ne | gt | gte | lt | lte => cases binding <;> rfl
  | contains | equals | startsWith | present => rfl

theorem predicate_params (bounded : Bounded spec) (binding : Binding) :
    (spec.predicate binding).params = boundParams spec binding := by
  obtain ⟨column, operator, value, upper⟩ := spec
  cases operator with
  | between =>
    obtain ⟨text, rfl⟩ := bounded rfl
    rfl
  | ne | gt | gte | lt | lte => cases binding <;> rfl
  | contains | equals | startsWith | present => rfl

/-- A predicate on a column with a column's name has what it asks for. -/
theorem supplies_predicate (bounded : Bounded spec)
    (named : Operation.isColumnName spec.column = true) (binding : Binding) :
    Supplies (spec.column ++ comparisonText spec.operator) (boundParams spec binding)
      ((boundTexts spec binding).map .text) := by
  have length := boundTexts_length bounded binding
  have names : (boundParams spec binding).names = boundNames spec.operator :=
    List.map_fst_zip (by rw [List.length_map, length])
  have values : (boundParams spec binding).entries.map Prod.snd =
      (boundTexts spec binding).map .text := List.map_snd_zip (by rw [List.length_map, length])
  have valid : NamesColumn (some (spec.column, spec.operator)) := by
    rintro _ _ ⟨⟩
    exact named
  rw [← values]
  refine supplies_of_asked ?_ ?_
  · rw [names]
    exact placeholderNames_filterText valid
  · rw [names]
    exact boundNames_nodup spec.operator

/-- **A filter is compiled to a predicate and what the predicate asks for.** It is applied exactly where
the request gives all that the gate asks for; otherwise the predicate holds always and nothing is
bound. -/
theorem filter_compiled (sql : String) (fields : Option Fields) (columns : List String)
    (binding : Binding) :
    (∀ spec, fields.bind (Spec.ofFields? · columns) = some spec ↔
        ∃ given, fields = some given ∧ Asks given columns spec) ∧
      ((∀ given spec, fields = some given → ¬Asks given columns spec) →
        Unfiltered sql (compile sql fields columns binding)) ∧
      ∀ given spec, fields = some given → Asks given columns spec →
        Applied sql spec binding (compile sql fields columns binding) := by
  have gate (spec : Spec) : fields.bind (Spec.ofFields? · columns) = some spec ↔
      ∃ given, fields = some given ∧ Asks given columns spec := by
    simp only [Option.bind_eq_some_iff, ofFields?_eq_some]
  refine ⟨gate, fun refused => ?_, fun given spec filtered asks => ?_⟩
  · have dropped : fields.bind (Spec.ofFields? · columns) = none := by
      rw [Option.eq_none_iff_forall_ne_some]
      intro spec chosen
      obtain ⟨given, filtered, asks⟩ := (gate spec).mp chosen
      exact refused given spec filtered asks
    rw [compile, dropped]
    exact ⟨replaceMarkers_splices sql alwaysTrue, rfl⟩
  · have bounded := bounded_of_asks asks
    rw [compile, (gate spec).mpr ⟨given, filtered, asks⟩]
    refine ⟨?_, fun marked => ?_, fun unmarked => ?_,
      fun named => supplies_predicate bounded named binding⟩
    · rw [← predicate_text spec binding]
      exact replaceMarkers_splices sql _
    · rw [← predicate_params bounded binding]
      exact if_pos marked
    · exact if_neg (Bool.not_eq_true _ ▸ unmarked)

/-- A template with a marker in a literal too. -/
def quotedTemplate : String := "SELECT '\x7bFILTERBY\x7d' FROM t WHERE \x7bfilterBy\x7d"

/-- A range whose lower bound is made of what statements are made of. -/
def hostileFields : Fields :=
  ⟨some "t.title", some "BeTween", some "'%:filterValueB\x7bfilterBy\x7d\"--", some "z"⟩

def hostileSpec : Spec := ⟨"t.title", .between, "'%:filterValueB\x7bfilterBy\x7d\"--", some "z"⟩

theorem hostileFields_compiled : Asks hostileFields ["id", "t.title"] hostileSpec ∧
    Operation.isColumnName "t.title" = true ∧
    Applied quotedTemplate hostileSpec .exact
      (compile quotedTemplate (some hostileFields) ["id", "t.title"] .exact) ∧
    Supplies "t.title BETWEEN :filterValueA AND :filterValueB" (boundParams hostileSpec .exact)
      [.text "'%:filterValueB\x7bfilterBy\x7d\"--", .text "z"] ∧
    (∀ given spec, some hostileFields = some given → ¬Asks given ["title"] spec) ∧
    Unfiltered quotedTemplate (compile quotedTemplate (some hostileFields) ["title"] .exact) := by
  have asks : Asks hostileFields ["id", "t.title"] hostileSpec := ofFields?_eq_some.mp (by decide)
  have named : Operation.isColumnName "t.title" = true := by decide
  have refused : ∀ given spec, some hostileFields = some given → ¬Asks given ["title"] spec := by
    rintro given spec ⟨⟩ other
    have chosen := ofFields?_eq_some.mpr other
    have dropped : Spec.ofFields? hostileFields ["title"] = none := by decide
    rw [dropped] at chosen
    cases chosen
  have compiled := filter_compiled quotedTemplate (some hostileFields)
  have applied := (compiled ["id", "t.title"] .exact).2.2 hostileFields hostileSpec rfl asks
  exact ⟨asks, named, applied, applied.supplied named, refused,
    (compiled ["title"] .exact).2.1 refused⟩

end NamedSql.FilterCompilation
