import Mathlib.Data.List.Basic
import NamedSql.Proofs.InsertionOrder

/-! The parameters of a filter are merged into those of a statement one after the other, and each is
looked for among all that have been merged before it. The names of either side differ among themselves,
so that this is to look for it in the statement: the policy counts for the names that both sides bind,
and for these alone. -/
namespace NamedSql.ParameterMerging
open ParameterNames InsertionOrder

/-- What the parameters of a filter and of a statement are merged to: the statement's in their order,
then what the filter adds in its own, and of a name that both bind the filter's value. -/
structure Merges (filter statement merged : Params) : Prop where
  names : merged.names = statement.names ++ filter.names.filter (· ∉ statement.names)
  once : merged.names.Nodup
  filtered : ∀ name ∈ filter.names, merged.get? name = filter.get? name
  stated : ∀ name, name ∉ filter.names → merged.get? name = statement.get? name

/-- Whether a name is the first of a filter's, in their order, that the statement binds too. -/
def FirstShared (filter statement : Params) (name : String) : Prop :=
  ∃ before behind, filter.names = before ++ name :: behind ∧
    (∀ other ∈ before, other ∉ statement.names) ∧ name ∈ statement.names

variable {filter statement merged : Params} {warnings : List Warning} {policy : MergePolicy}

private theorem mergeParameter_inserts {before next : Params × List Warning}
    {parameter : String × Value} (step : mergeParameter policy before parameter = .ok next) :
    next.1 = before.1.insert parameter.1 parameter.2 := by
  obtain ⟨params, warnings⟩ := before
  obtain ⟨name, value⟩ := parameter
  by_cases bound : params.contains name = true
  · cases policy with
    | reject => simp [mergeParameter, bound] at step
    | overwrite =>
      simp only [mergeParameter, bound, if_true, Except.ok.injEq] at step
      rw [← step]
  · simp only [mergeParameter, bound, Bool.false_eq_true, if_false, Except.ok.injEq] at step
    rw [← step]

/-- Whatever has been merged has been inserted, one parameter after the other. -/
theorem merged_eq_insertAll (ran : mergeParams policy filter statement = .ok (merged, warnings)) :
    merged = statement.insertAll filter.entries := by
  unfold mergeParams at ran
  unfold Record.insertAll
  generalize ([] : List Warning) = before at ran
  generalize filter.entries = entries at ran ⊢
  induction entries generalizing statement before with
  | nil =>
    cases ran
    rfl
  | cons parameter rest ih =>
    rw [List.foldlM_cons] at ran
    cases step : mergeParameter policy (statement, before) parameter with
    | error conflict =>
      rw [step] at ran
      cases ran
    | ok next =>
      rw [step] at ran
      rw [List.foldl_cons, ← mergeParameter_inserts step]
      exact ih next.2 ran

private theorem merges_of_names (once : filter.names.Nodup) (distinct : statement.names.Nodup)
    (ran : mergeParams policy filter statement = .ok (merged, warnings))
    (names : merged.names = statement.names ++ filter.names.filter (· ∉ statement.names)) :
    Merges filter statement merged := by
  have inserted := merged_eq_insertAll ran
  have found (name : String) : merged.get? name = (filter.get? name).or (statement.get? name) := by
    rw [inserted, get?_insertAll, lookup_reverse once]
    rfl
  refine ⟨names, ?_, fun name bound => ?_, fun name unbound => ?_⟩
  · rw [inserted, names_insertAll]
    exact nodup_addNames distinct _
  · obtain ⟨value, given⟩ := Option.ne_none_iff_exists'.mp (mt get?_eq_none.mp (not_not_intro bound))
    rw [found, given]
    rfl
  · rw [found, get?_eq_none.mpr unbound, Option.none_or]

/-- Overwriting merges all parameters, with a warning for each name that both sides bind. -/
theorem merge_overwrite (once : filter.names.Nodup) (distinct : statement.names.Nodup) :
    ∃ merged, Merges filter statement merged ∧ mergeParams .overwrite filter statement =
      .ok (merged, (filter.names.filter (· ∈ statement.names)).map .filterOverrides) := by
  have outline := mergeParams_names .overwrite filter statement
  rw [mergeNames_overwrite once, List.nil_append] at outline
  cases ran : mergeParams .overwrite filter statement with
  | error conflict =>
    rw [ran] at outline
    cases outline
  | ok result =>
    obtain ⟨merged, warnings⟩ := result
    rw [ran] at outline
    obtain ⟨names, rfl⟩ := Prod.mk.inj (Except.ok.inj outline)
    exact ⟨merged, merges_of_names once distinct ran names, rfl⟩

/-- Rejecting stops at the first name that both sides bind; if there is none it does what overwriting
does. -/
theorem merge_reject (once : filter.names.Nodup) (distinct : statement.names.Nodup) :
    (∃ name, FirstShared filter statement name ∧
        mergeParams .reject filter statement = .error ⟨name⟩) ∨
      ((∀ name ∈ filter.names, name ∉ statement.names) ∧ ∃ merged, Merges filter statement merged ∧
        mergeParams .reject filter statement = .ok (merged, [])) := by
  have outline := mergeParams_names .reject filter statement
  rw [mergeNames_reject distinct once] at outline
  cases found : filter.names.find? (· ∈ statement.names) with
  | some name =>
    obtain ⟨shared, before, behind, whole, free⟩ := List.find?_eq_some_iff_append.mp found
    have first : FirstShared filter statement name :=
      ⟨before, behind, whole, by simpa using free, of_decide_eq_true shared⟩
    rw [found] at outline
    cases ran : mergeParams .reject filter statement with
    | error conflict =>
      rw [ran] at outline
      obtain rfl : conflict = ⟨name⟩ := Except.error.inj outline
      exact Or.inl ⟨name, first, rfl⟩
    | ok result =>
      rw [ran] at outline
      cases outline
  | none =>
    have free : ∀ name ∈ filter.names, name ∉ statement.names := by simpa using found
    have added : filter.names.filter (· ∉ statement.names) = filter.names :=
      List.filter_eq_self.mpr fun name member => decide_eq_true (free name member)
    rw [found] at outline
    cases ran : mergeParams .reject filter statement with
    | error conflict =>
      rw [ran] at outline
      cases outline
    | ok result =>
      obtain ⟨merged, warnings⟩ := result
      rw [ran] at outline
      obtain ⟨names, rfl⟩ := Prod.mk.inj (Except.ok.inj outline)
      rw [← added] at names
      exact Or.inr ⟨free, merged, merges_of_names once distinct ran names, rfl⟩

/-- **Parameters are merged as the policy says.** Rejecting fails exactly where both sides bind a name,
and tells the first such name of the filter's. In every other case the parameters are merged, and only
a name that is taken over brings a warning. -/
theorem merging_follows_policy (once : filter.names.Nodup) (distinct : statement.names.Nodup) :
    ((∃ conflict, mergeParams .reject filter statement = .error conflict) ↔
        ∃ name ∈ filter.names, name ∈ statement.names) ∧
      (∀ conflict, mergeParams .reject filter statement = .error conflict →
        FirstShared filter statement conflict.parameter) ∧
      (∀ merged warnings, mergeParams .reject filter statement = .ok (merged, warnings) →
        Merges filter statement merged ∧ warnings = []) ∧
      ∃ merged, Merges filter statement merged ∧ mergeParams .overwrite filter statement =
        .ok (merged, (filter.names.filter (· ∈ statement.names)).map .filterOverrides) := by
  rw [← and_assoc, ← and_assoc]
  refine ⟨?_, merge_overwrite once distinct⟩
  rcases merge_reject once distinct with ⟨name, first, ran⟩ | ⟨free, merged, merges, ran⟩
  · obtain ⟨before, behind, whole, _, shared⟩ := id first
    have bound : name ∈ filter.names := by simp [whole]
    rw [ran]
    refine ⟨⟨iff_of_true ⟨_, rfl⟩ ⟨name, bound, shared⟩, ?_⟩, ?_⟩
    · rintro conflict ⟨⟩
      exact first
    · rintro merged warnings ⟨⟩
  · rw [ran]
    refine ⟨⟨iff_of_false ?_ ?_, ?_⟩, ?_⟩
    · rintro ⟨conflict, ⟨⟩⟩
    · rintro ⟨name, bound, shared⟩
      exact free name bound shared
    · rintro conflict ⟨⟩
    · rintro merged warnings ⟨⟩
      exact ⟨merges, rfl⟩

/-- What a filter for a range binds. -/
def rangeParams : Params := ⟨[("filterValueA", .text "1"), ("filterValueB", .text "9")]⟩

/-- What a statement binds that refers to the range's upper bound by its name. -/
def boundedParams : Params := ⟨[("filterValueB", .text "5"), ("owner", .int 7)]⟩

theorem rangeParams_merged : rangeParams.names.Nodup ∧ boundedParams.names.Nodup ∧
    FirstShared rangeParams boundedParams "filterValueB" ∧
    ∃ merged, Merges rangeParams boundedParams merged ∧
      mergeParams .overwrite rangeParams boundedParams =
        .ok (merged, [.filterOverrides "filterValueB"]) := by
  have once : rangeParams.names.Nodup := by decide
  have distinct : boundedParams.names.Nodup := by decide
  have follows := merging_follows_policy once distinct
  exact ⟨once, distinct, follows.2.1 ⟨"filterValueB"⟩ rfl, follows.2.2.2⟩

end NamedSql.ParameterMerging
