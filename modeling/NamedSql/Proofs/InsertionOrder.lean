import Mathlib.Data.List.Basic
import Mathlib.Data.List.Induction
import NamedSql.Json.Draft
import NamedSql.Proofs.ParameterNames

/-! Records keep their names in the order in which these were first inserted, each once, and under a
name the value that was inserted last. The objects of JSON texts are put together in the same way, so
their members have different names. -/
namespace NamedSql.InsertionOrder
open ParameterNames

variable {α : Type}

/-- Whether names are those of some occurrences, each once and in the order of its first. -/
structure FirstSeen (names occurrences : List String) : Prop where
  members : ∀ name, name ∈ names ↔ name ∈ occurrences
  once : names.Nodup
  order : names.Pairwise fun a b => occurrences.idxOf a < occurrences.idxOf b

private theorem addNames_snoc (occurrences : List String) (name : String) :
    (occurrences ++ [name]).foldl addName [] = addName (occurrences.foldl addName []) name := by
  rw [List.foldl_append]
  rfl

theorem addNames_order (occurrences : List String) : (occurrences.foldl addName []).Pairwise
    fun a b => occurrences.idxOf a < occurrences.idxOf b := by
  induction occurrences using List.reverseRecOn with
  | nil => exact List.Pairwise.nil
  | append_singleton occurrences last ih =>
    have seen {name : String} (member : name ∈ occurrences.foldl addName []) : name ∈ occurrences :=
      (mem_addNames.mp member).resolve_left List.not_mem_nil
    -- What comes later leaves the first places as they are.
    have kept : (occurrences.foldl addName []).Pairwise fun a b =>
        (occurrences ++ [last]).idxOf a < (occurrences ++ [last]).idxOf b := by
      refine List.Pairwise.imp_of_mem (fun {a b} inA inB before => ?_) ih
      rwa [List.idxOf_append_of_mem (seen inA), List.idxOf_append_of_mem (seen inB)]
    rw [addNames_snoc, addName]
    split
    · exact kept
    · rename_i fresh
      refine List.pairwise_append.mpr ⟨kept, List.pairwise_singleton _ _, fun a inA b isLast => ?_⟩
      obtain rfl := List.mem_singleton.mp isLast
      have absent : b ∉ occurrences := fun member => fresh (mem_addNames.mpr (Or.inr member))
      rw [List.idxOf_append_of_mem (seen inA), List.idxOf_append_of_notMem absent]
      have inside := List.idxOf_lt_length_of_mem (seen inA)
      omega

theorem firstSeen_addNames (occurrences : List String) :
    FirstSeen (occurrences.foldl addName []) occurrences where
  members name := by simp [mem_addNames]
  once := nodup_addNames List.nodup_nil occurrences
  order := addNames_order occurrences

/-- Of values under one name the last counts, and what was there before only if there is none. -/
theorem get?_insertAll (r : Record α) (pairs : List (String × α)) (name : String) :
    (r.insertAll pairs).get? name = (pairs.reverse.lookup name).or (r.get? name) := by
  unfold Record.insertAll
  induction pairs generalizing r with
  | nil => rfl
  | cons pair pairs ih =>
    obtain ⟨key, value⟩ := pair
    rw [List.foldl_cons, ih, Record.get?_insert, List.reverse_cons, List.lookup_append,
      Option.or_assoc]
    congr 1
    by_cases same : name = key
    · simp [same]
    · simp [List.lookup_cons, same, beq_eq_false_iff_ne.mpr same]

private theorem put_fresh {entries : List (String × α)} {name : String}
    (fresh : name ∉ entries.map Prod.fst) (value : α) :
    Record.put name value entries = entries ++ [(name, value)] := by
  induction entries with
  | nil => rfl
  | cons entry rest ih =>
    obtain ⟨other, later⟩ := not_or.mp fun member => fresh (List.mem_cons.mpr member)
    rw [Record.put, if_neg (Ne.symm other), ih later]
    rfl

/-- Pairs with new and different names are put behind the others. -/
theorem entries_insertAll (r : Record α) (pairs : List (String × α))
    (distinct : (r.names ++ pairs.map Prod.fst).Nodup) :
    (r.insertAll pairs).entries = r.entries ++ pairs := by
  unfold Record.insertAll
  induction pairs generalizing r with
  | nil => exact (List.append_nil r.entries).symm
  | cons pair pairs ih =>
    have fresh : pair.1 ∉ r.names := fun old =>
      (List.nodup_append.mp distinct).2.2 pair.1 old pair.1 (List.mem_cons_self ..) rfl
    have entries : (r.insert pair.1 pair.2).entries = r.entries ++ [pair] :=
      put_fresh fresh pair.2
    have later : ((r.insert pair.1 pair.2).names ++ pairs.map Prod.fst).Nodup := by
      rw [Record.names_insert, if_neg fresh]
      simpa using distinct
    rw [List.foldl_cons, ih _ later, entries, List.append_assoc]
    rfl

/-- Among different names the last value is the first. -/
theorem lookup_reverse {pairs : List (String × α)} (distinct : (pairs.map Prod.fst).Nodup)
    (name : String) : pairs.reverse.lookup name = pairs.lookup name := by
  induction pairs with
  | nil => rfl
  | cons pair pairs ih =>
    obtain ⟨key, value⟩ := pair
    obtain ⟨fresh, later⟩ := List.nodup_cons.mp distinct
    rw [List.reverse_cons, List.lookup_append, ih later]
    by_cases same : name = key
    · subst same
      have absent : pairs.lookup name = none := get?_eq_none (r := ⟨pairs⟩) |>.mpr fresh
      simp [absent]
    · have different : (name == key) = false := beq_eq_false_iff_ne.mpr same
      simp [List.lookup_cons, different]

theorem nodup_put {entries : List (String × α)} (distinct : (entries.map Prod.fst).Nodup)
    (name : String) (value : α) : ((Record.put name value entries).map Prod.fst).Nodup := by
  rw [Record.map_fst_put]
  split
  · exact distinct
  · rename_i fresh
    refine List.nodup_append.mpr ⟨distinct, by simp, ?_⟩
    rintro other old _ added rfl
    exact fresh (List.mem_singleton.mp added ▸ old)

open Json

private theorem members?_distinct {depth : Nat} {drafts : List (Option String × Draft)}
    {done members : List (String × Json)} (distinct : (done.map Prod.fst).Nodup)
    (read : Draft.members? depth drafts done = some (.object members)) :
    (members.map Prod.fst).Nodup := by
  induction drafts generalizing done with
  | nil =>
    rw [Draft.members?] at read
    cases read
    exact distinct
  | cons draft rest ih =>
    obtain ⟨_ | key, d⟩ := draft
    · rw [Draft.members?] at read
      cases read
    · rw [Draft.members?] at read
      split at read
      · cases read
      · exact ih (nodup_put distinct key _) read

private theorem values?_list {depth : Nat} {drafts : List Draft} {done : List Json} {j : Json}
    (read : Draft.values? depth drafts done = some j) : ∃ items, j = .list items := by
  induction drafts generalizing done with
  | nil =>
    rw [Draft.values?] at read
    cases read
    exact ⟨_, rfl⟩
  | cons draft rest ih =>
    rw [Draft.values?] at read
    split at read
    · cases read
    · exact ih read

/-- The members of an object that is read from a text have different names. -/
theorem parse?_distinct {s : String} {members : List (String × Json)}
    (read : Json.parse? s = some (.object members)) : (members.map Prod.fst).Nodup := by
  obtain ⟨draft, _, value⟩ := Option.bind_eq_some_iff.mp read
  cases draft with
  | object drafts =>
    rw [Draft.value?] at value
    split at value
    · cases value
    · exact members?_distinct (by simp : (([] : List (String × Json)).map Prod.fst).Nodup) value
  | list drafts =>
    rw [Draft.value?] at value
    split at value
    · cases value
    · obtain ⟨items, same⟩ := values?_list value
      cases same
  | null | bool _ =>
    rw [Draft.value?] at value
    cases value
  | number n | text n =>
    rw [Draft.value?] at value
    cases n <;> cases value

end NamedSql.InsertionOrder
