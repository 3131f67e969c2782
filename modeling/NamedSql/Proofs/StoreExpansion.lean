import NamedSql.Postgres.Connection
import NamedSql.Proofs.CoercedExpansion
import NamedSql.Proofs.OperationRuns
import NamedSql.Sqlite.Notes

/-! Stores expand the placeholders of a statement before they do anything else with it. A name that
they report as unbound is therefore unbound in the statement they were given. -/
namespace NamedSql.StoreExpansion
open Sql BoundValues CoercedExpansion OperationRuns

variable {σ : Type}

/-- What a store does with placeholders: it counts nothing before they are expanded, and it finds a
name unbound only where expanding them does. -/
structure ExpandsFirst (store : Store σ) : Prop where
  counted : ∀ {sql params state total}, ((store.count sql params).run state).1 = .ok total →
    ∃ expansion, store.dialect.expand sql params = .ok expansion
  unbound : ∀ {sql params state name},
    ((store.rows sql params).run state).1 = .error (.unbound name) →
      store.dialect.expand sql params = .error (.unbound name)

private theorem notes_run {α : Type} (sql : String) (params : Params)
    (answer : Sqlite.Notes → String → List Value → Except String (Sqlite.Notes × α))
    (state : Sqlite.Notes) :
    (∀ a, ((Sqlite.Notes.run sql params answer).run state).1 = .ok a →
        ∃ expansion, Dialect.sqlite.expand sql params = .ok expansion) ∧
      ∀ name, ((Sqlite.Notes.run sql params answer).run state).1 = .error (.unbound name) →
        Dialect.sqlite.expand sql params = .error (.unbound name) := by
  change (∀ a, (Sqlite.Notes.run sql params answer state).1 = .ok a → _) ∧
    ∀ name, (Sqlite.Notes.run sql params answer state).1 = .error (.unbound name) → _
  unfold Sqlite.Notes.run
  cases Dialect.sqlite.expand sql params with
  | error cause =>
    refine ⟨fun a ok => ?_, fun name failed => ?_⟩
    · cases ok
    · cases failed
      rfl
  | ok expansion =>
    refine ⟨fun a _ => ⟨expansion, rfl⟩, fun name failed => ?_⟩
    simp only at failed
    split at failed
    · cases failed
    · cases failed

theorem notes_expandsFirst : ExpandsFirst Sqlite.notes where
  counted ok := (notes_run _ _ _ _).1 _ ok
  unbound failed := (notes_run _ _ _ _).2 _ failed

/-- A connection expands a statement with the values that the dialect does. -/
theorem connection_expand_values (server : Postgres.Server σ) (sql : String) (params : Params)
    (state : Postgres.Connection σ) :
    ((Postgres.Connection.expand server sql params).run state).1.map Expansion.values =
      (Dialect.postgres.expand sql params).map Expansion.values := by
  unfold Postgres.Connection.expand
  cases plain : Dialect.postgres.expand sql params with
  | error cause => rfl
  | ok expansion =>
    by_cases empty : expansion.values.isEmpty = true
    · simp only [empty]
      rfl
    · simp only [empty]
      rw [if_neg (by simp)]
      simp only [run_bind]
      rcases (Postgres.Connection.prepare server expansion.sql []).run state with
        ⟨_ | description, later⟩
      · rfl
      · -- The types that the server told change the placeholders, not the names behind them.
        have values := dialect_expand_values .postgres sql params
        rw [plain, ← expandCoerced_values sql params (description.parameters.map some)] at values
        simp only
        cases coerced : Postgres.expandCoerced sql params (description.parameters.map some) with
        | error unbound =>
          rw [coerced] at values
          cases values
        | ok expanded =>
          rw [coerced] at values
          exact values.symm

/-- Whether something never finds a name unbound. -/
private def NamesNothing {α : Type} (act : StateM σ (Except Store.Error α)) : Prop :=
  ∀ state name, (act.run state).1 ≠ .error (.unbound name)

private theorem namesNothing_bind {α β : Type} {act : StateM σ α}
    {next : α → StateM σ (Except Store.Error β)}
    (each : ∀ state, NamesNothing (next (act.run state).1)) : NamesNothing (act >>= next) :=
  fun state => each state (act.run state).2

private theorem namesNothing_ok {α : Type} (a : α) :
    NamesNothing (pure (.ok a) : StateM σ (Except Store.Error α)) := by
  rintro state name ⟨⟩

private theorem namesNothing_failure {α : Type} (cause : Store.Failure) :
    NamesNothing (pure (.error (Postgres.failure cause)) : StateM σ (Except Store.Error α)) := by
  rintro state name ⟨⟩

private theorem prepare_namesNothing (server : Postgres.Server σ) (sql : String)
    (types : List String) : NamesNothing (Postgres.Connection.prepare server sql types) := by
  refine namesNothing_bind fun state => ?_
  split
  · exact namesNothing_failure _
  · split
    · exact namesNothing_ok _
    · refine namesNothing_bind fun state => ?_
      split
      · exact namesNothing_failure _
      · exact namesNothing_bind fun _ => namesNothing_ok _

/-- What is executed has no names any more. -/
private theorem executeExpanded_namesNothing (server : Postgres.Server σ) (expansion : Expansion) :
    NamesNothing (Postgres.Connection.executeExpanded server expansion) := by
  refine namesNothing_bind fun state => ?_
  split
  · next cause failed =>
    rintro later name ⟨⟩
    exact prepare_namesNothing server _ _ _ _ failed
  · refine namesNothing_bind fun state => ?_
    split
    · exact namesNothing_failure _
    · exact namesNothing_ok _

private theorem readRows_namesNothing (description : Postgres.Description)
    (outcome : Postgres.Outcome) (name : String) :
    Postgres.Connection.readRows description outcome ≠ .error (.unbound name) := by
  unfold Postgres.Connection.readRows
  split
  · rintro ⟨⟩
  · rintro ⟨⟩

/-- A statement that a connection runs is expanded, and what is unbound is so in its expansion. -/
private theorem connection_run {α : Type} (server : Postgres.Server σ) (sql : String)
    (params : Params) {read : Postgres.Description → Postgres.Outcome → Except Store.Error α}
    (state : Postgres.Connection σ) :
    (∀ a, ((Postgres.Connection.run server sql params read).run state).1 = .ok a →
        ∃ expansion, Dialect.postgres.expand sql params = .ok expansion) ∧
      ∀ name, (∀ description outcome name, read description outcome ≠ .error (.unbound name)) →
        ((Postgres.Connection.run server sql params read).run state).1 = .error (.unbound name) →
        Dialect.postgres.expand sql params = .error (.unbound name) := by
  have values := connection_expand_values server sql params state
  unfold Postgres.Connection.run
  rw [run_bind]
  generalize (Postgres.Connection.expand server sql params).run state = answer at values
  obtain ⟨_ | expansion, later⟩ := answer
  · cases plain : Dialect.postgres.expand sql params with
    | ok expansion =>
      rw [plain] at values
      cases values
    | error cause =>
      rw [plain] at values
      cases values
      refine ⟨?_, ?_⟩
      · rintro a ⟨⟩
      · rintro name _ ⟨⟩
        rfl
  · cases plain : Dialect.postgres.expand sql params with
    | error cause =>
      rw [plain] at values
      cases values
    | ok direct =>
      refine ⟨fun a _ => ⟨direct, rfl⟩, fun name readable failed => absurd failed ?_⟩
      refine namesNothing_bind (fun state => ?_) later name
      split
      · next cause failed =>
        rintro last name ⟨⟩
        exact executeExpanded_namesNothing server _ _ _ failed
      · rintro last name
        exact readable _ _ name

theorem postgres_expandsFirst (server : Postgres.Server σ) : ExpandsFirst (Postgres.store server) where
  counted ok := (connection_run server _ _ _).1 _ ok
  unbound failed := (connection_run server _ _ _).2 _ readRows_namesNothing failed

end NamedSql.StoreExpansion
