import NamedSql.Proofs.StatementPieces

/-! The values that a statement is expanded with follow from the names of its placeholders alone. How
a placeholder is written has no part in them, nor in whether a name is found unbound. -/
namespace NamedSql.BoundValues
open Sql StatementPieces ParameterNames

/-- The names of the placeholders of a statement, one for each, in their order. -/
def placeholderNames (s : List Char) : List String := (pieces s).filterMap placeholderName?

/-- The value bound to a name. -/
def boundValue (params : Params) (name : String) : Except Unbound Value :=
  match params.get? name with
  | some value => .ok value
  | none => .error ⟨name⟩

/-- The values bound to names, or else the first name that none is bound to. -/
def boundValues (params : Params) (names : List String) : Except Unbound (List Value) :=
  names.mapM (boundValue params)

theorem boundValues_cons (params : Params) (name : String) (names : List String) :
    boundValues params (name :: names) = (boundValue params name).bind fun value =>
      (boundValues params names).bind fun values => .ok (value :: values) :=
  List.mapM_cons

variable {params : Params} {render : Nat → Value → String} {number : Nat} {rest : List Piece}

/-- A piece that is no placeholder is kept. -/
theorem expandPieces_kept {piece : Piece} (kept : placeholderName? piece = none) :
    expandPieces params render number (piece :: rest) =
      (expandPieces params render number rest).map fun cut => (piece.text ++ cut.1, cut.2) := by
  cases piece with
  | placeholder name => cases kept
  | verbatim _ | doubleColon | other _ =>
    rw [expandPieces]
    · cases expandPieces params render number rest <;> rfl
    · rintro _ ⟨⟩

theorem expandPieces_placeholder (name : List Char) :
    expandPieces params render number (.placeholder name :: rest) =
      (boundValue params (String.ofList name)).bind fun value =>
        (expandPieces params render (number + 1) rest).map fun cut =>
          ((render number value).toList ++ cut.1, value :: cut.2) := by
  rw [expandPieces, boundValue]
  cases params.get? (String.ofList name) with
  | none => rfl
  | some value => cases expandPieces params render (number + 1) rest <;> rfl

/-- The values of an expansion are those of the names, whatever is written for them. -/
theorem expandPieces_boundValues (params : Params) (render : Nat → Value → String) (number : Nat)
    (pieces : List Piece) : (expandPieces params render number pieces).map Prod.snd =
      boundValues params (pieces.filterMap placeholderName?) := by
  induction pieces generalizing number with
  | nil => rfl
  | cons piece rest ih =>
    cases piece with
    | placeholder name =>
      have names : (Piece.placeholder name :: rest).filterMap placeholderName? =
          String.ofList name :: rest.filterMap placeholderName? := rfl
      rw [expandPieces_placeholder, names, boundValues_cons, ← ih (number + 1)]
      cases boundValue params (String.ofList name) with
      | error unbound => rfl
      | ok value => cases expandPieces params render (number + 1) rest <;> rfl
    | verbatim _ | doubleColon | other _ =>
      rw [expandPieces_kept rfl, List.filterMap_cons_none rfl, ← ih number]
      cases expandPieces params render number rest <;> rfl

/-- The values that a statement is expanded with, or the name that is unbound. -/
theorem expand_values (sql : String) (params : Params) (render : Nat → Value → String) :
    (expand sql params render).map Expansion.values =
      boundValues params (placeholderNames sql.toList) := by
  rw [placeholderNames, ← expandPieces_boundValues params render 1]
  unfold expand
  cases expandPieces params render 1 (pieces sql.toList) <;> rfl

theorem dialect_expand_values (d : Dialect) (sql : String) (params : Params) :
    (d.expand sql params).map Expansion.values =
      (boundValues params (placeholderNames sql.toList)).mapError fun unbound =>
        .unbound unbound.name := by
  rw [← expand_values sql params fun number _ => d.placeholder number]
  unfold Dialect.expand
  cases expand sql params fun number _ => d.placeholder number <;> rfl

/-- Values are found for names exactly where all of them are bound. -/
theorem boundValues_ok_iff {names : List String} :
    (∃ values, boundValues params names = .ok values) ↔ ∀ name ∈ names, name ∈ params.names := by
  induction names with
  | nil =>
    constructor
    · rintro _ name ⟨⟩
    · exact fun _ => ⟨[], rfl⟩
  | cons name names ih =>
    rw [List.forall_mem_cons, ← ih, boundValues_cons, boundValue]
    cases found : params.get? name with
    | none =>
      have unbound : name ∉ params.names := get?_eq_none.mp found
      simp [unbound, Except.bind]
    | some value =>
      have bound : name ∈ params.names := mem_names_of_get? found
      cases boundValues params names with
      | error unbound => simp [bound, Except.bind]
      | ok values => simp [bound, Except.bind]

/-- Values are found for names that are bound to them, one by one. -/
theorem boundValues_eq_ok {names : List String} {values : List Value} :
    boundValues params names = .ok values ↔ names.map params.get? = values.map some := by
  induction names generalizing values with
  | nil =>
    rw [boundValues, List.mapM_nil, List.map_nil]
    cases values with
    | nil => exact iff_of_true rfl rfl
    | cons value values => exact iff_of_false (by rintro ⟨⟩) (by rintro ⟨⟩)
  | cons name names ih =>
    rw [boundValues_cons, boundValue]
    cases found : params.get? name with
    | none => cases values <;> simp [Except.bind, found]
    | some value =>
      cases values with
      | nil => cases boundValues params names <;> simp [Except.bind]
      | cons first values =>
        rw [List.map_cons, List.map_cons, found, List.cons.injEq, ← ih]
        cases boundValues params names <;> simp [Except.bind]

/-- The name that is found unbound is the first that is. -/
theorem boundValues_eq_error {names : List String} {unbound : Unbound}
    (failed : boundValues params names = .error unbound) :
    ∃ before behind, names = before ++ unbound.name :: behind ∧
      (∀ name ∈ before, name ∈ params.names) ∧ unbound.name ∉ params.names := by
  induction names with
  | nil => cases failed
  | cons name names ih =>
    rw [boundValues_cons, boundValue] at failed
    cases found : params.get? name with
    | none =>
      rw [found] at failed
      cases failed
      exact ⟨[], names, rfl, by rintro _ ⟨⟩, get?_eq_none.mp found⟩
    | some value =>
      rw [found] at failed
      cases later : boundValues params names with
      | ok values =>
        rw [later] at failed
        cases failed
      | error other =>
        rw [later] at failed
        cases failed
        obtain ⟨before, behind, whole, bound, absent⟩ := ih later
        refine ⟨name :: before, behind, by rw [whole, List.cons_append], ?_, absent⟩
        exact List.forall_mem_cons.mpr ⟨mem_names_of_get? found, bound⟩

/-- A statement is expanded exactly where all of its placeholders are bound. -/
theorem expand_ok_iff {d : Dialect} {sql : String} :
    (∃ expansion, d.expand sql params = .ok expansion) ↔
      ∀ name ∈ placeholderNames sql.toList, name ∈ params.names := by
  have values := dialect_expand_values d sql params
  rw [← boundValues_ok_iff]
  cases expanded : d.expand sql params with
  | error cause =>
    rw [expanded] at values
    cases bound : boundValues params (placeholderNames sql.toList) with
    | error unbound => simp
    | ok _ =>
      rw [bound] at values
      cases values
  | ok expansion =>
    rw [expanded] at values
    cases bound : boundValues params (placeholderNames sql.toList) with
    | error unbound =>
      rw [bound] at values
      cases values
    | ok listed => simp

end NamedSql.BoundValues
