import NamedSql.Proofs.CountAndPage
import NamedSql.Proofs.FilterSeams
import NamedSql.Proofs.ValueIndependence

/-! Whether the statements of a listing can be expanded is for the operation to answer, not for the
request. A request has a part in it only through the filter that it chooses, and an operation whose
filters all bind what is asked for with them treats all requests alike. Operations are accepted that
do not: a filter's predicate may be put right before a letter, or a name that only filters bind may be
asked for by hand. -/
namespace NamedSql.RequestIndependence
open Sql StatementParts MarkerSplicing SinglePass FilterGate FilterPredicate ParameterNames Preparation
open AppendedClauses BoundValues CountAndPage FilterSeams ValueIndependence

/-- Whether the statements that a listing builds for a request, the count and the page, are expanded. -/
def Expands (d : Dialect) (op : Operation) (request : Request) : Prop :=
  ∃ prepared, op.prepare request = .ok prepared ∧
    (∃ counted, d.expand (d.counted prepared.statement.text) prepared.statement.params =
      .ok counted) ∧
    ∃ paged, d.expand (d.limited prepared.statement.text (op.page request).count
      (op.page request).start) prepared.statement.params = .ok paged

/-- Whether every placeholder that an operation's query has with a filter is bound, by a reference of
the query or by the filter. -/
def EveryNameBound (op : Operation) (filter : Option (String × Filter.Operator)) : Prop :=
  ∀ name ∈ placeholderNames (singlePass (filterText filter).toList op.sql.toList),
    (name ∈ references op.sql ∧ isMarkerName name.toList = false) ∨
      (hasMarker op.sql = true ∧ name ∈ filterBound filter)

instance (op : Operation) (filter : Option (String × Filter.Operator)) :
    Decidable (EveryNameBound op filter) :=
  inferInstanceAs (Decidable (∀ name ∈ placeholderNames _, _))

/-- Whether an operation permits a filter. -/
def Permits (op : Operation) (filter : Option (String × Filter.Operator)) : Prop :=
  ∀ column operator, filter = some (column, operator) → op.filtering = true ∧ column ∈ op.columns

/-- Whether the markers of an operation keep clear of the names around them, and its query asks for
no name that filters bind without a reference to it. -/
structure StandsClear (op : Operation) : Prop where
  clear : (parts op.sql.toList).IsChain Clear
  unreserved : ∀ name ∈ placeholderNames (singlePass (filterText none).toList op.sql.toList),
    name ∈ Filter.parameterNames → name ∈ references op.sql

variable {op : Operation} {warnings : List Warning} {filter : Option (String × Filter.Operator)}

theorem permits_named (accepted : op.validate = .ok warnings) (permitted : Permits op filter) :
    NamesColumn filter := by
  intro column operator same
  exact (validate_accepted accepted).1 column (permitted column operator same).2

theorem gate_permitted (op : Operation) (request : Request) : Permits op (gate op request) := by
  intro column operator same
  obtain ⟨spec, applied, chosen⟩ := Option.map_eq_some_iff.mp same
  cases chosen
  exact appliedFilter_permitted applied

theorem gate_unfiltered (op : Operation) : gate op .empty = none := by
  unfold gate appliedFilter
  cases op.filtering <;> rfl

/-- A request for a filter. -/
def filterRequest (column : String) (operator : Filter.Operator) : Request :=
  .ofPairs [("filterBy", column), ("filterOp", operator.name), ("filterValue", "x"),
    ("filterValueB", "x")]

/-- Every filter that an operation permits is chosen by some request. -/
theorem gate_reached (named : NamesColumn filter) (permitted : Permits op filter) :
    ∃ request, gate op request = filter := by
  cases filter with
  | none => exact ⟨.empty, gate_unfiltered op⟩
  | some choice =>
    obtain ⟨column, operator⟩ := choice
    obtain ⟨filtering, listed⟩ := permitted column operator rfl
    have nonempty : column ≠ "" := by
      rintro rfl
      have valid := named "" operator rfl
      cases valid
    have fields : Filter.Fields.ofRequest (filterRequest column operator) =
        ⟨some column, some operator.name, some "x", some "x"⟩ := rfl
    obtain ⟨upper, chosen⟩ := ofFields?_chosen listed nonempty (by decide : "x" ≠ "") operator
    refine ⟨filterRequest column operator, ?_⟩
    rw [gate, appliedFilter, if_pos filtering, fields, chosen]
    rfl

/-- What an accepted operation is prepared to: the text of one pass over its query, with the names of
its references and of the filter. -/
theorem prepared_names (accepted : op.validate = .ok warnings) (request : Request) :
    ∃ prepared, op.prepare request = .ok prepared ∧
      prepared.statement.text.toList =
        singlePass (filterText (gate op request)).toList op.sql.toList ∧
      ∀ name, name ∈ prepared.statement.params.names ↔
        (name ∈ references op.sql ∧ isMarkerName name.toList = false) ∨
          (hasMarker op.sql = true ∧ name ∈ filterBound (gate op request)) := by
  have inert := predicateText_inert accepted request
  obtain ⟨merged, ran⟩ := merge_succeeds accepted request
  refine ⟨⟨⟨rewriteReferences (compiled op request).text, merged.1⟩, merged.2⟩, ?_, ?_, fun name => ?_⟩
  · rw [prepare_eq, ran]
    rfl
  · rw [rewriteReferences, String.toList_ofList, compiled_text, replaceMarkers_eq_spliced,
      String.toList_ofList, rewritten_spliced inert, predicateText_of_gate]
  · have names := mergeParams_names op.policy (compiled op request).params
      (Statement.bind (compiled op request).text request).params
    rw [ran, compiled_names, bind_names] at names
    rw [mem_mergeNames names.symm, mem_referencedNames, compiled_text, references_replaceMarkers inert,
      filterNames_of_gate, List.mem_filter, Bool.not_eq_true']
    cases hasMarker op.sql with
    | false => simp
    | true => simp

/-- The statements of a listing are expanded exactly where the filter leaves no name unbound. -/
theorem expands_iff (accepted : op.validate = .ok warnings) {d : Dialect} (windows : WritesWindows d)
    (request : Request) : Expands d op request ↔ EveryNameBound op (gate op request) := by
  obtain ⟨prepared, ready, text, names⟩ := prepared_names accepted request
  have bound : EveryNameBound op (gate op request) ↔
      ∀ name ∈ placeholderNames prepared.statement.text.toList, name ∈ prepared.statement.params.names := by
    rw [text]
    exact forall₂_congr fun name _ => (names name).symm
  have counted := placeholderNames_counted d prepared.statement.text
  have limited := placeholderNames_limited windows prepared.statement.text (op.page request).count
    (op.page request).start
  rw [bound]
  constructor
  · rintro ⟨other, same, expanded, _⟩
    rw [ready] at same
    cases same
    rw [expand_ok_iff, counted] at expanded
    exact expanded
  · intro all
    refine ⟨prepared, ready, expand_ok_iff.mpr ?_, expand_ok_iff.mpr ?_⟩
    · rwa [counted]
    · rwa [limited]

/-- Where markers stand clear, a filter binds what it adds and nothing else is unbound with it. -/
theorem everyNameBound_of_clear (standing : StandsClear op) (named : NamesColumn filter) :
    EveryNameBound op filter ↔ EveryNameBound op none := by
  have mem := mem_placeholderNames_prepared named standing.clear
  constructor
  · intro bound name member
    rcases bound name ((mem name).mpr (Or.inl member)) with referenced | ⟨_, filtered⟩
    · exact Or.inl referenced
    · have reserved := filterBound_reserved filtered
      have unmarked : ∀ n ∈ Filter.parameterNames, isMarkerName n.toList = false := by decide
      exact Or.inl ⟨standing.unreserved name member reserved, unmarked name reserved⟩
  · intro bound name member
    rcases (mem name).mp member with plain | ⟨filtered, marker⟩
    · rcases bound name plain with referenced | ⟨_, nothing⟩
      · exact Or.inl referenced
      · cases nothing
    · exact Or.inr ⟨hasMarker_of_part marker, filtered⟩

/-- **Whether a listing's statements expand is for the operation to say.** They expand exactly where
the filter that is chosen leaves no name unbound. So all requests fare alike exactly where every filter
that is permitted leaves names unbound if no filter does, and so they do where markers stand clear. -/
theorem expands_independent_of_request (accepted : op.validate = .ok warnings) {d : Dialect}
    (windows : WritesWindows d) :
    (∀ request, Expands d op request ↔ EveryNameBound op (gate op request)) ∧
      ((∀ first second, Expands d op first ↔ Expands d op second) ↔
        ∀ filter, Permits op filter → (EveryNameBound op filter ↔ EveryNameBound op none)) ∧
      (StandsClear op → ∀ first second, Expands d op first ↔ Expands d op second) := by
  have expands := expands_iff accepted windows
  have independent : (∀ first second, Expands d op first ↔ Expands d op second) ↔
      ∀ filter, Permits op filter → (EveryNameBound op filter ↔ EveryNameBound op none) := by
    constructor
    · intro alike filter permitted
      -- Some request chooses the filter; compare it with the one that chooses none.
      obtain ⟨request, reached⟩ := gate_reached (permits_named accepted permitted) permitted
      have same := alike request .empty
      rwa [expands, expands, reached, gate_unfiltered] at same
    · intro alike first second
      rw [expands, expands, alike _ (gate_permitted op first), alike _ (gate_permitted op second)]
  refine ⟨expands, independent, fun standing => independent.mpr fun filter permitted => ?_⟩
  exact everyNameBound_of_clear standing (permits_named accepted permitted)

theorem noteSearch_independent : noteSearch.validate = .ok [] ∧ StandsClear noteSearch ∧
    ∀ first second,
      Expands .postgres noteSearch first ↔ Expands .postgres noteSearch second := by
  have accepted : noteSearch.validate = .ok [] := by decide +kernel
  have standing : StandsClear noteSearch := ⟨by decide +kernel, by decide +kernel⟩
  have independent := expands_independent_of_request accepted (d := .postgres) (Or.inr rfl)
  exact ⟨accepted, standing, independent.2.2 standing⟩

/-- A listing with a letter right behind its marker. -/
def unspacedListing : Operation :=
  (Operation.listing "notes" "SELECT id FROM notes WHERE \x7bfilterBy\x7dORDER BY id").withFilter
    ["title"]

/-- It is accepted, and its statements are expanded unless a request chooses a filter. -/
theorem unspacedListing_dependent : unspacedListing.validate = .ok [] ∧
    unspacedListing.kind = .queryAll ∧ Expands .sqlite unspacedListing .empty ∧
    ¬Expands .sqlite unspacedListing titleRequest := by
  have accepted : unspacedListing.validate = .ok [] := by decide +kernel
  have unfiltered := expands_iff accepted (d := .sqlite) (Or.inr rfl) .empty
  have filtered := expands_iff accepted (d := .sqlite) (Or.inr rfl) titleRequest
  refine ⟨accepted, rfl, unfiltered.mpr (by decide +kernel), fun expands => ?_⟩
  have bound := filtered.mp expands
  exact absurd bound (by decide +kernel)

end NamedSql.RequestIndependence
