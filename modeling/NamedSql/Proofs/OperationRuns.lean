import NamedSql.Operation.Run

/-! What running an operation does, said once: which calls it makes of its store, in which order, and
what it makes of each answer. -/
namespace NamedSql.OperationRuns
open Sql

variable {σ : Type} {store : Store σ} {op : Operation} {request : Request}

theorem run_bind {α β : Type} (act : StateM σ α) (next : α → StateM σ β) (state : σ) :
    (act >>= next).run state = (next (act.run state).1).run (act.run state).2 := rfl

/-- A listing is a count, and if that is answered a page. -/
theorem queryAll_run {prepared : Operation.Prepared} (ready : op.prepare request = .ok prepared)
    (state : σ) : (op.queryAll store request).run state =
      match (store.count (store.dialect.counted prepared.statement.text)
        prepared.statement.params).run state with
      | (.error cause, later) => (.error (.store cause), later)
      | (.ok total, later) =>
        match (store.rows (store.dialect.limited prepared.statement.text (op.page request).count
          (op.page request).start) prepared.statement.params).run later with
        | (.error cause, last) => (.error (.store cause), last)
        | (.ok entries, last) => (.ok ⟨total, op.page request, entries⟩, last) := by
  obtain ⟨⟨sql, params⟩, warnings⟩ := prepared
  rw [Operation.queryAll, ready]
  simp only [run_bind]
  rcases (store.count (store.dialect.counted sql) params).run state with ⟨_ | total, later⟩
  · rfl
  · simp only [run_bind]
    rcases (store.rows (store.dialect.limited sql (op.page request).count
      (op.page request).start) params).run later with ⟨_ | entries, last⟩
    · rfl
    · rfl

/-- A listing that cannot be prepared asks nothing. -/
theorem queryAll_unprepared {fault : Fault} (failed : op.prepare request = .error fault) (state : σ) :
    (op.queryAll store request).run state = (.error fault, state) := by
  rw [Operation.queryAll, failed]
  rfl

/-- How an operation reports that its statement failed: a name without a value is its own fault. -/
def statementFault : Store.Error → Fault
  | .unbound name => .store (.unbound name)
  | cause => .statementFailed cause

/-- A statement is one call. -/
theorem statement_run (state : σ) : (op.execute store request).run state =
    match (store.execute (Statement.bind op.sql request).text
      (Statement.bind op.sql request).params).run state with
    | (.error cause, later) => (.error (statementFault cause), later)
    | (.ok _, later) => (.ok (), later) := by
  rw [Operation.execute]
  simp only [run_bind]
  rcases (store.execute (Statement.bind op.sql request).text
    (Statement.bind op.sql request).params).run state with ⟨cause | changed, later⟩
  · cases cause with
    | unbound name => rfl
    | failed _ _ | config _ => rfl
  · rfl

end NamedSql.OperationRuns
