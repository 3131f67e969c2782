import NamedSql.Statement

/-! Parameters are bound, merged and looked up by name. What becomes of the names, in which order they
end up and whether they conflict, follows from the names alone; the values only travel with them. -/
namespace NamedSql.ParameterNames
open Sql

variable {α : Type}

/-- The names so far with one more behind them, unless it is there already. -/
def addName (names : List String) (name : String) : List String :=
  if name ∈ names then names else names ++ [name]

theorem mem_addNames {names more : List String} {name : String} :
    name ∈ more.foldl addName names ↔ name ∈ names ∨ name ∈ more := by
  induction more generalizing names with
  | nil => simp
  | cons first more ih =>
    rw [List.foldl_cons, ih, addName]
    split
    · rename_i seen
      constructor
      · rintro (old | later)
        · exact Or.inl old
        · exact Or.inr (List.mem_cons_of_mem _ later)
      · rintro (old | later)
        · exact Or.inl old
        · rcases List.mem_cons.mp later with rfl | later
          · exact Or.inl seen
          · exact Or.inr later
    · simp [or_assoc]

theorem nodup_addNames {names : List String} (distinct : names.Nodup) (more : List String) :
    (more.foldl addName names).Nodup := by
  induction more generalizing names with
  | nil => exact distinct
  | cons first more ih =>
    apply ih
    rw [addName]
    split
    · exact distinct
    · rename_i fresh
      exact List.nodup_append.mpr ⟨distinct, by simp, by
        rintro name old _ added rfl
        exact fresh (List.mem_singleton.mp added ▸ old)⟩

theorem addNames_of_nodup {names more : List String} (distinct : (names ++ more).Nodup) :
    more.foldl addName names = names ++ more := by
  induction more generalizing names with
  | nil => simp
  | cons first more ih =>
    have fresh : first ∉ names := fun old =>
      (List.nodup_append.mp distinct).2.2 first old first (by simp) rfl
    have later : (names ++ [first] ++ more).Nodup := by simpa using distinct
    rw [List.foldl_cons, addName, if_neg fresh, ih later, List.append_assoc]
    rfl

/-- Inserting pairs adds their names one by one. -/
theorem names_insertAll (r : Record α) (pairs : List (String × α)) :
    (r.insertAll pairs).names = (pairs.map Prod.fst).foldl addName r.names := by
  unfold Record.insertAll
  induction pairs generalizing r with
  | nil => rfl
  | cons pair pairs ih => rw [List.foldl_cons, ih, Record.names_insert]; rfl

theorem get?_eq_none {r : Record α} {name : String} : r.get? name = none ↔ name ∉ r.names := by
  unfold Record.get? Record.names
  induction r.entries with
  | nil => simp
  | cons entry rest ih =>
    obtain ⟨key, value⟩ := entry
    rw [List.lookup_cons, List.map_cons, List.mem_cons, not_or]
    by_cases same : name = key
    · simp [same]
    · rw [beq_eq_false_iff_ne.mpr same, ih]
      exact ⟨fun absent => ⟨same, absent⟩, fun both => both.2⟩

theorem mem_names_of_get? {r : Record α} {name : String} {value : α}
    (found : r.get? name = some value) : name ∈ r.names := by
  refine Decidable.not_not.mp fun absent => ?_
  rw [get?_eq_none.mpr absent] at found
  cases found

/-- Where all names are different, the values under them are those of the entries. -/
theorem map_get?_names {r : Record α} (distinct : r.names.Nodup) :
    r.names.map r.get? = (r.entries.map Prod.snd).map some := by
  obtain ⟨entries⟩ := r
  unfold Record.names Record.get? at *
  induction entries with
  | nil => rfl
  | cons entry entries ih =>
    obtain ⟨key, value⟩ := entry
    obtain ⟨fresh, later⟩ := List.nodup_cons.mp distinct
    have behind : ∀ name ∈ entries.map Prod.fst,
        List.lookup name ((key, value) :: entries) = entries.lookup name := by
      intro name member
      have different : name ≠ key := by
        rintro rfl
        exact fresh member
      rw [List.lookup_cons, beq_eq_false_iff_ne.mpr different]
    rw [List.map_cons, List.map_cons, List.lookup_cons_self, List.map_congr_left behind, ih later]
    rfl

theorem contains_iff {r : Record α} {name : String} : r.contains name = true ↔ name ∈ r.names := by
  rw [Record.contains, Option.isSome_iff_ne_none, ne_eq, get?_eq_none, Classical.not_not]

/-- Looking up among names that were all inserted with the value a function gives them. -/
theorem get?_insertAll_map (r : Record α) (names : List String) (value : String → α)
    (name : String) : (r.insertAll (names.map fun n => (n, value n))).get? name =
      if name ∈ names then some (value name) else r.get? name := by
  unfold Record.insertAll
  induction names generalizing r with
  | nil => rfl
  | cons first names ih =>
    rw [List.map_cons, List.foldl_cons, ih, Record.get?_insert]
    by_cases later : name ∈ names
    · simp [later]
    · by_cases same : name = first
      · simp [same]
      · simp [later, same]

theorem mem_referencedNames {sql name : String} :
    name ∈ referencedNames sql ↔ name ∈ references sql := by
  have seen : name ∈ (references sql).foldl addName [] ↔ name ∈ [] ∨ name ∈ references sql :=
    mem_addNames
  exact seen.trans (by simp)

theorem referencedNames_nodup (sql : String) : (referencedNames sql).Nodup :=
  nodup_addNames List.nodup_nil (references sql)

/-- A statement binds the names it refers to, each once and in the order of their first reference. -/
theorem bind_names (sql : String) (request : Request) :
    (Statement.bind sql request).params.names = referencedNames sql := by
  have distinct : ([] ++ referencedNames sql).Nodup := referencedNames_nodup sql
  rw [Statement.bind, Record.ofList, names_insertAll, List.map_map]
  simp only [Function.comp_def, List.map_id']
  exact addNames_of_nodup distinct

/-- Each of them is bound to the value that the request has under it. -/
theorem bind_get? (sql : String) (request : Request) (name : String) :
    (Statement.bind sql request).params.get? name =
      if name ∈ references sql then some (request.value name) else none := by
  rw [Statement.bind, Record.ofList, get?_insertAll_map]
  simp [mem_referencedNames]

/-- What merging one of a filter's names does to the names merged so far. -/
def mergeName (policy : MergePolicy) (merged : List String × List Warning) (name : String) :
    Except Conflict (List String × List Warning) :=
  if name ∈ merged.1 then
    match policy with
    | .reject => .error ⟨name⟩
    | .overwrite => .ok (merged.1, merged.2 ++ [.filterOverrides name])
  else .ok (merged.1 ++ [name], merged.2)

private theorem mergeParameter_names (policy : MergePolicy) (merged : Params × List Warning)
    (parameter : String × Value) :
    (mergeParameter policy merged parameter).map (fun m => (m.1.names, m.2)) =
      mergeName policy (merged.1.names, merged.2) parameter.1 := by
  obtain ⟨params, warnings⟩ := merged
  obtain ⟨name, value⟩ := parameter
  by_cases bound : name ∈ params.names
  · have contained := contains_iff.mpr bound
    cases policy
    · simp [mergeParameter, mergeName, bound, contained, Except.map]
    · simp [mergeParameter, mergeName, bound, contained, Except.map, Record.names_insert]
  · have fresh : params.contains name = false := by
      rw [← Bool.not_eq_true, contains_iff]
      exact bound
    simp [mergeParameter, mergeName, bound, fresh, Except.map, Record.names_insert]

/-- Merging parameters merges their names: the same conflict or the same names in the same order,
with the same warnings, whatever the values are. -/
theorem mergeParams_names (policy : MergePolicy) (filter statement : Params) :
    (mergeParams policy filter statement).map (fun m => (m.1.names, m.2)) =
      filter.names.foldlM (mergeName policy) (statement.names, []) := by
  unfold mergeParams Record.names
  generalize ([] : List Warning) = warnings
  induction filter.entries generalizing statement warnings with
  | nil => rfl
  | cons parameter rest ih =>
    have step := mergeParameter_names policy (statement, warnings) parameter
    rw [List.foldlM_cons, List.map_cons, List.foldlM_cons]
    unfold Record.names at step
    rw [← step]
    cases merged : mergeParameter policy (statement, warnings) parameter with
    | error conflict => rfl
    | ok next => exact ih next.1 next.2

/-- Names other than one are told from names as they were before it was put behind these. -/
private theorem filter_snoc (names : List String) {more : List String} {first : String}
    (fresh : first ∉ more) : more.filter (· ∈ names ++ [first]) = more.filter (· ∈ names) ∧
      more.filter (· ∉ names ++ [first]) = more.filter (· ∉ names) := by
  have same : ∀ name ∈ more, (name ∈ names ++ [first] ↔ name ∈ names) := by
    intro name member
    have other : name ≠ first := by
      rintro rfl
      exact fresh member
    rw [List.mem_append, List.mem_singleton, or_iff_left other]
  exact ⟨List.filter_congr fun name member => decide_eq_decide.mpr (same name member),
    List.filter_congr fun name member => decide_eq_decide.mpr (not_congr (same name member))⟩

/-- With overwriting there is no conflict, but a warning for each name that is there already. -/
theorem mergeNames_overwrite {more : List String} (distinct : more.Nodup) (names : List String)
    (warnings : List Warning) : more.foldlM (mergeName .overwrite) (names, warnings) =
      .ok (names ++ more.filter (· ∉ names),
        warnings ++ (more.filter (· ∈ names)).map .filterOverrides) := by
  induction more generalizing names warnings with
  | nil => simp [pure, Except.pure]
  | cons first more ih =>
    obtain ⟨fresh, later⟩ := List.nodup_cons.mp distinct
    rw [List.foldlM_cons]
    by_cases bound : first ∈ names
    · have step : mergeName .overwrite (names, warnings) first =
          .ok (names, warnings ++ [.filterOverrides first]) := if_pos bound
      rw [step]
      refine (ih later names _).trans ?_
      simp [bound]
    · have step : mergeName .overwrite (names, warnings) first = .ok (names ++ [first], warnings) :=
        if_neg bound
      obtain ⟨shared, added⟩ := filter_snoc names fresh
      rw [step]
      refine (ih later (names ++ [first]) warnings).trans ?_
      rw [shared, added]
      simp [bound]

/-- Names that are all different are put behind each other without a warning. -/
theorem mergeNames_distinct (policy : MergePolicy) {statement filter : List String}
    (warnings : List Warning) (distinct : (statement ++ filter).Nodup) :
    filter.foldlM (mergeName policy) (statement, warnings) = .ok (statement ++ filter, warnings) := by
  induction filter generalizing statement with
  | nil => simp [pure, Except.pure]
  | cons name filter ih =>
    have fresh : name ∉ statement := fun old =>
      (List.nodup_append.mp distinct).2.2 name old name (by simp) rfl
    have later : (statement ++ [name] ++ filter).Nodup := by simpa using distinct
    have step : mergeName policy (statement, warnings) name = .ok (statement ++ [name], warnings) := by
      simp [mergeName, fresh]
    rw [List.foldlM_cons, step]
    exact (ih later).trans (by simp)

/-- Without overwriting the first name that is there already is a conflict. -/
theorem mergeNames_reject {names more : List String} (distinct : names.Nodup) (once : more.Nodup)
    (warnings : List Warning) : more.foldlM (mergeName .reject) (names, warnings) =
      match more.find? (· ∈ names) with
      | some name => .error ⟨name⟩
      | none => .ok (names ++ more, warnings) := by
  have apart {front : List String} (single : front.Nodup) (free : ∀ name ∈ front, name ∉ names) :
      (names ++ front).Nodup := by
    refine List.nodup_append.mpr ⟨distinct, single, ?_⟩
    rintro name old _ added rfl
    exact free name added old
  cases found : more.find? (· ∈ names) with
  | none =>
    have free : ∀ name ∈ more, name ∉ names := by simpa using found
    exact mergeNames_distinct .reject warnings (apart once free)
  | some name =>
    obtain ⟨shared, before, behind, rfl, free⟩ := List.find?_eq_some_iff_append.mp found
    have front := mergeNames_distinct .reject warnings
      (apart (List.nodup_append.mp once).1 (by simpa using free))
    have step : mergeName .reject (names ++ before, warnings) name = .error ⟨name⟩ :=
      if_pos (List.mem_append_left _ (of_decide_eq_true shared))
    rw [List.foldlM_append, front]
    change (name :: behind).foldlM (mergeName .reject) (names ++ before, warnings) = .error ⟨name⟩
    rw [List.foldlM_cons, step]
    rfl

/-- Merging that succeeds leaves the names of both sides. -/
theorem mem_mergeNames {policy : MergePolicy} {more : List String}
    {merged result : List String × List Warning}
    (ran : more.foldlM (mergeName policy) merged = .ok result) (name : String) :
    name ∈ result.1 ↔ name ∈ merged.1 ∨ name ∈ more := by
  induction more generalizing merged with
  | nil =>
    cases ran
    simp
  | cons first more ih =>
    rw [List.foldlM_cons] at ran
    cases step : mergeName policy merged first with
    | error conflict =>
      rw [step] at ran
      cases ran
    | ok next =>
      rw [step] at ran
      have names : name ∈ next.1 ↔ name ∈ merged.1 ∨ name = first := by
        unfold mergeName at step
        split at step
        · rename_i bound
          split at step
          · cases step
          · cases step
            constructor
            · exact Or.inl
            · rintro (old | rfl)
              · exact old
              · exact bound
        · cases step
          simp
      rw [ih ran, names, List.mem_cons, or_assoc]

end NamedSql.ParameterNames
