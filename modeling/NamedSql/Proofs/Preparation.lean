import NamedSql.Operation.Run
import NamedSql.Proofs.FilterGate
import NamedSql.Proofs.FilterPredicate
import NamedSql.Proofs.ParameterNames
import NamedSql.Proofs.SinglePass

/-! An operation is checked once, on its raw text, and prepared for each request, on the text that
the filter has been put into. Preparing never fails for an operation that was accepted, because no
predicate that a request can choose adds a reference to the raw text; and the text that it ends up
with is that of a single pass over the raw one. -/
namespace NamedSql.Preparation
open Sql VerbatimBoundaries StatementParts MarkerSplicing SinglePass FilterGate FilterPredicate
open ParameterNames

/-- The filter that a request gets, if the operation filters and permits it. -/
def appliedFilter (op : Operation) (request : Request) : Option Filter.Spec :=
  if op.filtering then Filter.Spec.ofFields? (Filter.Fields.ofRequest request) op.columns else none

/-- The predicate that stands in the place of every marker. -/
def predicateText (op : Operation) (request : Request) : String :=
  match appliedFilter op request with
  | none => Filter.alwaysTrue
  | some spec => (spec.predicate op.binding).text

/-- The names that the filter binds, none where the statement has no marker. -/
def filterNames (op : Operation) (request : Request) : List String :=
  match appliedFilter op request with
  | none => []
  | some spec => if hasMarker op.sql then boundNames spec.operator else []

/-- The operation's statement with the filter put in and its references still to be read. -/
def compiled (op : Operation) (request : Request) : Statement :=
  Filter.compile op.sql (if op.filtering then some (Filter.Fields.ofRequest request) else none)
    op.columns op.binding

theorem prepare_eq (op : Operation) (request : Request) : op.prepare request =
    match mergeParams op.policy (compiled op request).params
      (Statement.bind (compiled op request).text request).params with
    | .error conflict => .error (.conflict conflict.parameter)
    | .ok (params, warnings) =>
      .ok ⟨⟨(Statement.bind (compiled op request).text request).text, params⟩, warnings⟩ := rfl

private theorem compiled_eq (op : Operation) (request : Request) : compiled op request =
    match appliedFilter op request with
    | none => ⟨replaceMarkers op.sql Filter.alwaysTrue, Record.empty⟩
    | some spec => ⟨replaceMarkers op.sql (spec.predicate op.binding).text,
        if hasMarker op.sql then (spec.predicate op.binding).params else Record.empty⟩ := by
  unfold compiled appliedFilter Filter.compile
  cases op.filtering <;> rfl

theorem compiled_text (op : Operation) (request : Request) :
    (compiled op request).text = replaceMarkers op.sql (predicateText op request) := by
  rw [compiled_eq, predicateText]
  cases appliedFilter op request <;> rfl

theorem compiled_names (op : Operation) (request : Request) :
    (compiled op request).params.names = filterNames op request := by
  rw [compiled_eq, filterNames]
  cases appliedFilter op request with
  | none => rfl
  | some spec =>
    by_cases marked : hasMarker op.sql = true
    · simp [marked, predicate_names]
    · simp [marked, Record.names, Record.empty]

/-- What an accepted operation is known to be. -/
theorem validate_accepted {op : Operation} {warnings : List Warning}
    (accepted : op.validate = .ok warnings) :
    (∀ column ∈ op.columns, Operation.isColumnName column = true) ∧
      op.reservedReference? = none ∧ ¬(op.kind = .execute ∧ hasMarker op.sql = true) := by
  unfold Operation.validate at accepted
  split at accepted
  · cases accepted
  · split at accepted
    · cases accepted
    · split at accepted
      · cases accepted
      · rename_i columns
        split at accepted
        · cases accepted
        · rename_i unreserved
          split at accepted
          · cases accepted
          · rename_i unmarked
            refine ⟨?_, unreserved, unmarked⟩
            simpa using List.find?_eq_none.mp columns

/-- A filter is applied only where the operation filters, and only to a permitted column. -/
theorem appliedFilter_permitted {op : Operation} {request : Request} {spec : Filter.Spec}
    (applied : appliedFilter op request = some spec) :
    op.filtering = true ∧ spec.column ∈ op.columns := by
  unfold appliedFilter at applied
  split at applied
  · rename_i filtering
    exact ⟨filtering, ofFields?_column applied⟩
  · cases applied

theorem predicateText_inert {op : Operation} {warnings : List Warning}
    (accepted : op.validate = .ok warnings) (request : Request) :
    Inert (predicateText op request).toList := by
  rw [predicateText]
  cases applied : appliedFilter op request with
  | none => exact alwaysTrue_inert
  | some spec =>
    obtain ⟨_, permitted⟩ := appliedFilter_permitted applied
    exact predicate_inert ((validate_accepted accepted).1 _ permitted) op.binding

theorem filterNames_nodup (op : Operation) (request : Request) : (filterNames op request).Nodup := by
  rw [filterNames]
  split
  · exact List.nodup_nil
  · split
    · exact boundNames_nodup _
    · exact List.nodup_nil

/-- What a filter binds is reserved, and bound only where the operation filters and has a marker. -/
theorem filterNames_reserved {op : Operation} {request : Request} {name : String}
    (bound : name ∈ filterNames op request) :
    op.filtering = true ∧ hasMarker op.sql = true ∧ name ∈ Filter.parameterNames := by
  rw [filterNames] at bound
  split at bound
  · cases bound
  · rename_i spec applied
    split at bound
    · rename_i marked
      exact ⟨(appliedFilter_permitted applied).1, marked, boundNames_reserved _ bound⟩
    · cases bound

/-- The raw text of an accepted operation refers to no name that a filter of it may not take over. -/
private theorem unreferenced {op : Operation} {request : Request} {warnings : List Warning}
    (accepted : op.validate = .ok warnings) (rejecting : op.policy = .reject) {name : String}
    (bound : name ∈ filterNames op request) : name ∉ references op.sql := by
  obtain ⟨filtering, marked, reserved⟩ := filterNames_reserved bound
  obtain ⟨_, unreserved, unmarked⟩ := validate_accepted accepted
  have listing : op.kind = .queryAll := by
    cases kind : op.kind with
    | queryAll => rfl
    | execute => exact absurd ⟨kind, marked⟩ unmarked
  rw [Operation.reservedReference?, if_pos ⟨listing, filtering, rejecting⟩,
    List.find?_eq_none] at unreserved
  intro referenced
  exact unreserved name (mem_referencedNames.mpr referenced) (decide_eq_true reserved)

/-- Preparing an accepted operation binds no name twice that a filter may not take over. -/
private theorem names_distinct {op : Operation} {warnings : List Warning}
    (accepted : op.validate = .ok warnings) (request : Request) (rejecting : op.policy = .reject) :
    (referencedNames (compiled op request).text ++ filterNames op request).Nodup := by
  refine List.nodup_append.mpr ⟨referencedNames_nodup _, filterNames_nodup op request, ?_⟩
  rintro name referenced _ bound rfl
  -- The compiled text is what preparing binds, but only the raw text has been validated.
  rw [compiled_text, mem_referencedNames,
    references_replaceMarkers (predicateText_inert accepted request)] at referenced
  exact unreferenced accepted rejecting bound (List.mem_filter.mp referenced).1

/-- Merging the parameters of an accepted operation with those of any filter succeeds. -/
theorem merge_succeeds {op : Operation} {warnings : List Warning}
    (accepted : op.validate = .ok warnings) (request : Request) :
    ∃ merged, mergeParams op.policy (compiled op request).params
      (Statement.bind (compiled op request).text request).params = .ok merged := by
  have names : ∃ merged, (filterNames op request).foldlM (mergeName op.policy)
      (referencedNames (compiled op request).text, []) = .ok merged := by
    cases policy : op.policy with
    | overwrite => exact ⟨_, mergeNames_overwrite (filterNames_nodup op request) _ _⟩
    | reject => exact ⟨_, mergeNames_distinct _ _ (names_distinct accepted request policy)⟩
  rw [← compiled_names, ← bind_names _ request, ← mergeParams_names] at names
  obtain ⟨merged, same⟩ := names
  cases result : mergeParams op.policy (compiled op request).params
      (Statement.bind (compiled op request).text request).params with
  | error conflict => rw [result] at same; cases same
  | ok params => exact ⟨params, rfl⟩

/-- **Registration rules out conflicts of parameters.** -/
theorem accepted_operation_prepares {op : Operation} {warnings : List Warning}
    (accepted : op.validate = .ok warnings) (request : Request) :
    ∃ prepared, op.prepare request = .ok prepared := by
  obtain ⟨merged, ran⟩ := merge_succeeds accepted request
  rw [prepare_eq, ran]
  exact ⟨_, rfl⟩

/-- A listing with markers in a literal, in braces and beside a dash, and a reserved name that is
quoted. -/
def noteSearch : Operation :=
  (Operation.listing "notes" ("SELECT '\x7bfilterValue\x7d \x7bFILTERBY\x7d' -- \x7bowner\x7d\n" ++
    "FROM notes WHERE -\x7bfilterBy\x7d AND \x7b\x7bfilterby\x7d\x7d = \x7bowner\x7d")).withFilter
    ["title"]

/-- A request for the notes with a title like `ann`. -/
def titleRequest : Request :=
  .ofPairs [("filterBy", "title"), ("filterOp", "Contains"), ("filterValue", "ann"), ("owner", "7")]

private theorem noteSearch_accepted : noteSearch.validate = .ok [] := by decide +kernel

theorem noteSearch_prepares : noteSearch.validate = .ok [] ∧
    ∃ prepared, noteSearch.prepare titleRequest = .ok prepared :=
  ⟨noteSearch_accepted, accepted_operation_prepares noteSearch_accepted titleRequest⟩

/-- **The prepared text is that of one pass over the raw text.** The predicate is read as plain
characters: it opens and closes no literal or comment, and neither a reference nor a marker comes
about in it or across its ends. -/
theorem prepared_text_is_single_pass {op : Operation} {warnings : List Warning}
    (accepted : op.validate = .ok warnings) (request : Request) :
    ∃ prepared, op.prepare request = .ok prepared ∧
      prepared.statement.text =
        String.ofList (singlePass (predicateText op request).toList op.sql.toList) ∧
      parts (compiled op request).text.toList =
        (parts op.sql.toList).flatMap (splicedPart (predicateText op request).toList) ∧
      hasMarker (compiled op request).text = false := by
  have inert := predicateText_inert accepted request
  have text : (compiled op request).text =
      String.ofList (spliced (predicateText op request).toList op.sql.toList) := by
    rw [compiled_text, replaceMarkers_eq_spliced]
  obtain ⟨merged, ran⟩ := merge_succeeds accepted request
  refine ⟨⟨⟨rewriteReferences (compiled op request).text, merged.1⟩, merged.2⟩, ?_, ?_, ?_, ?_⟩
  · rw [prepare_eq, ran]
    rfl
  · rw [rewriteReferences, text, String.toList_ofList, rewritten_spliced inert]
  · rw [text, String.toList_ofList, parts_spliced inert]
  · rw [text, hasMarker, markerCount, String.toList_ofList, no_marker_spliced inert]
    rfl

theorem noteSearch_prepared_text : noteSearch.validate = .ok [] ∧
    ∃ prepared, noteSearch.prepare titleRequest = .ok prepared ∧
      prepared.statement.text =
        "SELECT '\x7bfilterValue\x7d title LIKE :filterValue' -- \x7bowner\x7d\n" ++
        "FROM notes WHERE -title LIKE :filterValue AND \x7btitle LIKE :filterValue\x7d = :owner" := by
  refine ⟨noteSearch_accepted, ?_⟩
  obtain ⟨prepared, ran, text, _⟩ := prepared_text_is_single_pass noteSearch_accepted titleRequest
  exact ⟨prepared, ran, text.trans (by decide +kernel)⟩

end NamedSql.Preparation
