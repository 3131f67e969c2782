import NamedSql.Proofs.CoercedExpansion
import NamedSql.Proofs.StatementCutting

/-! What expanding a statement does to its pieces. It succeeds exactly where every placeholder is bound,
and otherwise it tells the first that is not. Each placeholder is then written once, by its number and
its value and in the order of the statement, also where writing it does something besides; all other
pieces stay as they are. -/
namespace NamedSql.PlaceholderExpansion
open Sql StatementPieces BoundValues CoercedExpansion StatementCutting

variable {params : Params} {values : List Value} {σ : Type}

/-- The names of the placeholders among pieces, one for each. -/
def namesOf (ps : List Piece) : List String := ps.filterMap placeholderName?

/-- What an expansion is, for the pieces of a statement. -/
structure Expands (params : Params) (render : Nat → Value → String) (ps : List Piece)
    (result : Except Unbound Expansion) : Prop where
  succeeds : (∃ e, result = .ok e) ↔ ∀ name ∈ namesOf ps, name ∈ params.names
  fails : ∀ unbound, result = .error unbound → ∃ before behind,
    namesOf ps = before ++ unbound.name :: behind ∧ (∀ name ∈ before, name ∈ params.names) ∧
      unbound.name ∉ params.names
  binds : ∀ e, result = .ok e → (namesOf ps).map params.get? = e.values.map some
  writes : ∀ e, result = .ok e →
    e.sql = String.ofList (filled ps (e.values.mapIdx fun k value => render (k + 1) value))

/-- Expands pieces where writing a placeholder may change a state. -/
def expandPiecesIn (params : Params) (render : Nat → Value → StateM σ String) :
    Nat → List Piece → StateM σ (Except Unbound (List Char × List Value))
  | _, [] => pure (.ok ([], []))
  | number, .placeholder name :: rest =>
    match params.get? (String.ofList name) with
    | none => pure (.error ⟨String.ofList name⟩)
    | some value => do
      let written ← render number value
      match ← expandPiecesIn params render (number + 1) rest with
      | .error unbound => return .error unbound
      | .ok (text, values) => return .ok (written.toList ++ text, value :: values)
  | number, piece :: rest => do
    match ← expandPiecesIn params render number rest with
    | .error unbound => return .error unbound
    | .ok (text, values) => return .ok (piece.text ++ text, values)

/-- Expands a statement where writing a placeholder may change a state. -/
def expandIn (sql : String) (params : Params) (render : Nat → Value → StateM σ String) :
    StateM σ (Except Unbound Expansion) := do
  match ← expandPiecesIn params render 1 (pieces sql.toList) with
  | .error unbound => return .error unbound
  | .ok (text, values) => return .ok ⟨String.ofList text, values⟩

/-- Writes the placeholders of values one after the other, of which the first has a number. -/
def writeFrom (render : Nat → Value → StateM σ String) (number : Nat) (values : List Value) :
    StateM σ (List String) :=
  (values.zipIdx number).mapM fun (value, number) => render number value

theorem expand_expands (sql : String) (params : Params) (render : Nat → Value → String) :
    Expands params render (pieces sql.toList) (expand sql params render) := by
  have values := expand_values sql params render
  refine ⟨?_, fun unbound failed => ?_, fun e expanded => ?_, fun e expanded => ?_⟩
  · rw [namesOf, ← placeholderNames, ← boundValues_ok_iff, ← values]
    cases expand sql params render with
    | error unbound => simp [Except.map]
    | ok e => simp [Except.map]
  · rw [failed] at values
    exact boundValues_eq_error values.symm
  · rw [expanded] at values
    exact boundValues_eq_ok.mp values.symm
  · exact (expand_filled expanded).2

/-- Where writing a placeholder changes nothing, an expansion is the one without a state. -/
theorem expandIn_pure (sql : String) (params : Params) (render : Nat → Value → String) :
    expandIn sql params (fun number value => (pure (render number value) : StateM σ String)) =
      pure (expand sql params render) := by
  have same (number : Nat) (ps : List Piece) : expandPiecesIn params
      (fun number value => (pure (render number value) : StateM σ String)) number ps =
        pure (expandPieces params render number ps) := by
    induction ps generalizing number with
    | nil => rfl
    | cons piece rest ih =>
      cases piece with
      | placeholder name =>
        rw [expandPiecesIn, expandPieces]
        cases params.get? (String.ofList name) with
        | none => rfl
        | some value =>
          simp only [ih, pure_bind]
          cases expandPieces params render (number + 1) rest <;> rfl
      | verbatim _ | doubleColon | other _ =>
        rw [expandPiecesIn, expandPieces, ih]
        · simp only [pure_bind]
          cases expandPieces params render number rest <;> rfl
        all_goals rintro _ ⟨⟩
  rw [expandIn, same, expand, pure_bind]
  cases expandPieces params render 1 (pieces sql.toList) <;> rfl

/-- Where all names are bound, writing the placeholders is all that happens to the state. -/
private theorem expandPiecesIn_bound (render : Nat → Value → StateM σ String) (number : Nat)
    {ps : List Piece} (bound : (namesOf ps).map params.get? = values.map some) :
    expandPiecesIn params render number ps = (do
      let texts ← writeFrom render number values
      return .ok (filled ps texts, values)) := by
  induction ps generalizing number values with
  | nil =>
    obtain rfl : values = [] := List.map_eq_nil_iff.mp bound.symm
    rfl
  | cons piece rest ih =>
    cases piece with
    | placeholder name =>
      have names : namesOf (.placeholder name :: rest) = String.ofList name :: namesOf rest := rfl
      rw [names, List.map_cons] at bound
      cases values with
      | nil => cases bound
      | cons value values =>
        obtain ⟨found, later⟩ := List.cons.inj bound
        have write : writeFrom render number (value :: values) = (do
            let written ← render number value
            let texts ← writeFrom render (number + 1) values
            return written :: texts) := by
          rw [writeFrom, List.zipIdx_cons, List.mapM_cons]
          rfl
        rw [expandPiecesIn, found, write]
        simp only [ih (number + 1) later, bind_assoc, pure_bind, filled]
    | verbatim _ | doubleColon | other _ =>
      rw [expandPiecesIn, ih number bound]
      · simp only [bind_assoc, pure_bind, filled]
      all_goals rintro _ ⟨⟩

theorem expandIn_bound {sql : String} (render : Nat → Value → StateM σ String)
    (bound : (namesOf (pieces sql.toList)).map params.get? = values.map some) :
    expandIn sql params render = (do
      let texts ← writeFrom render 1 values
      return .ok ⟨String.ofList (filled (pieces sql.toList) texts), values⟩) := by
  rw [expandIn, expandPiecesIn_bound render 1 bound]
  simp only [bind_assoc, pure_bind]

/-- **Expansion follows the pieces.** A statement is cut into pieces in one way only, and expanding it
replaces the placeholders among them. A renderer that keeps a state is called once for each, in their
order and with their values, and otherwise the state is left alone. -/
theorem expansion_follows_pieces (sql : String) (params : Params) :
    ∃ ps, (∀ other, Cut sql.toList other ↔ other = ps) ∧
      (∀ render, Expands params render ps (expand sql params render)) ∧
      (∀ (σ : Type) (render : Nat → Value → StateM σ String) (values : List Value),
        (namesOf ps).map params.get? = values.map some →
          expandIn sql params render = do
            let texts ← writeFrom render 1 values
            return .ok ⟨String.ofList (filled ps texts), values⟩) ∧
      ∀ (σ : Type) (render : Nat → Value → String),
        expandIn sql params (fun number value => (pure (render number value) : StateM σ String)) =
          pure (expand sql params render) :=
  ⟨pieces sql.toList, fun _ => cut_iff, expand_expands sql params,
    fun _ render _ bound => expandIn_bound render bound, fun _ => expandIn_pure sql params⟩

example : expand "SELECT :a'it''s :b'::b:::a /*:b" ⟨[("a", .int 1), ("b", .null)]⟩
    (fun number _ => "$" ++ toString number) =
      .ok ⟨"SELECT $1'it''s :b'::b::$2 /*:b", [.int 1, .int 1]⟩ := by
  decide +kernel

end NamedSql.PlaceholderExpansion
