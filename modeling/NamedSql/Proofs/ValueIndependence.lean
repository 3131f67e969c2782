import NamedSql.Proofs.Preparation
import NamedSql.Proofs.StatementPieces

/-! No value of a request reaches the text of a statement. Two requests that the gate of the filter
does not tell apart are prepared to the same text with the same names, and from there on only the
names decide what text the database is sent. -/
namespace NamedSql.ValueIndependence
open Sql ParameterNames FilterPredicate Preparation StatementPieces

/-- What the gate lets through of a request: nothing, or a column and an operator. -/
def gate (op : Operation) (request : Request) : Option (String × Filter.Operator) :=
  (appliedFilter op request).map fun spec => (spec.column, spec.operator)

theorem predicateText_of_gate (op : Operation) (request : Request) :
    predicateText op request = filterText (gate op request) := by
  unfold predicateText gate
  cases appliedFilter op request with
  | none => rfl
  | some spec => exact predicate_text spec op.binding

theorem filterNames_of_gate (op : Operation) (request : Request) : filterNames op request =
    if hasMarker op.sql then filterBound (gate op request) else [] := by
  unfold filterNames gate
  cases appliedFilter op request with
  | none => simp [filterBound]
  | some spec => rfl

/-- All of a prepared statement but its values. -/
def outline (prepared : Operation.Prepared) : String × List String × List Warning :=
  (prepared.statement.text, prepared.statement.params.names, prepared.warnings)

/-- Preparing decides the text, the names and a conflict between them without looking at a value. -/
theorem prepare_outline (op : Operation) (request : Request) :
    (op.prepare request).map outline =
      match (filterNames op request).foldlM (mergeName op.policy)
        (referencedNames (compiled op request).text, []) with
      | .error conflict => .error (.conflict conflict.parameter)
      | .ok (names, warnings) =>
        .ok (rewriteReferences (compiled op request).text, names, warnings) := by
  rw [prepare_eq, ← compiled_names, ← bind_names _ request, ← mergeParams_names]
  cases mergeParams op.policy (compiled op request).params
    (Statement.bind (compiled op request).text request).params <;> rfl

private theorem compiled_of_gate {op : Operation} {first second : Request}
    (agree : gate op first = gate op second) :
    (compiled op first).text = (compiled op second).text ∧
      filterNames op first = filterNames op second := by
  rw [compiled_text, compiled_text, predicateText_of_gate, predicateText_of_gate,
    filterNames_of_gate, filterNames_of_gate, agree]
  exact ⟨rfl, rfl⟩

/-- The text of the statement that counts a prepared query's rows, as the database is sent it. -/
def countText (d : Dialect) (prepared : Operation.Prepared) : Except Store.Error String :=
  (d.expand (d.counted prepared.statement.text) prepared.statement.params).map Expansion.sql

/-- The text of an operation's statement that is carried out, as the database is sent it. -/
def executedText (d : Dialect) (op : Operation) (request : Request) : Except Store.Error String :=
  (d.expand (Statement.bind op.sql request).text (Statement.bind op.sql request).params).map
    Expansion.sql

private theorem countText_of_outline (d : Dialect) {first second : Except Fault Operation.Prepared}
    (same : first.map outline = second.map outline) :
    first.map (countText d) = second.map (countText d) := by
  cases first with
  | error fault =>
    cases second with
    | error other => cases same; rfl
    | ok _ => cases same
  | ok one =>
    cases second with
    | error _ => cases same
    | ok two =>
      have outlines : outline one = outline two := Except.ok.inj same
      simp only [outline, Prod.mk.injEq] at outlines
      obtain ⟨text, names, _⟩ := outlines
      have counts : countText d one = countText d two := by
        rw [countText, countText, expand_text, expand_text, text, names]
      exact congrArg Except.ok counts

/-- **Untrusted values never reach the text.** Requests that the gate does not tell apart are refused
alike or prepared to the same text, names and warnings, and counted with the same text; and a
statement that is carried out has a text that its raw one alone decides. -/
theorem sql_text_independent_of_values (op : Operation) (d : Dialect) (first second : Request) :
    (gate op first = gate op second →
      (op.prepare first).map outline = (op.prepare second).map outline ∧
        (op.prepare first).map (countText d) = (op.prepare second).map (countText d)) ∧
      ∀ other : Operation, other.sql = op.sql → executedText d op first = executedText d other second := by
  constructor
  · intro agree
    obtain ⟨text, names⟩ := compiled_of_gate agree
    have outlines : (op.prepare first).map outline = (op.prepare second).map outline := by
      rw [prepare_outline, prepare_outline, text, names]
    exact ⟨outlines, countText_of_outline d outlines⟩
  · intro other same
    rw [executedText, executedText, expand_text, expand_text, bind_names, bind_names, same]
    rfl

/-- A request whose values would close a literal, begin a comment and refer to parameters. -/
def hostileRequest : Request :=
  .ofPairs [("filterBy", "title"), ("filterOp", "Contains"),
    ("filterValue", "'; DROP TABLE notes --"), ("owner", ":filterValue \x7bowner\x7d")]

theorem noteSearch_hostile : gate noteSearch titleRequest = gate noteSearch hostileRequest ∧
    (noteSearch.prepare titleRequest).map (countText .postgres) =
      (noteSearch.prepare hostileRequest).map (countText .postgres) ∧
    executedText .postgres noteSearch titleRequest = executedText .postgres noteSearch .empty := by
  have agree : gate noteSearch titleRequest = gate noteSearch hostileRequest := by decide +kernel
  have prepared := sql_text_independent_of_values noteSearch .postgres titleRequest hostileRequest
  have executed := sql_text_independent_of_values noteSearch .postgres titleRequest .empty
  exact ⟨agree, (prepared.1 agree).2, executed.2 noteSearch rfl⟩

end NamedSql.ValueIndependence
