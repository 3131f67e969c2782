import Mathlib.Data.List.Sort
import NamedSql.NameMap
import NamedSql.Proofs.ParameterNames

/-! Maps from names list their names in increasing order, whatever is inserted into them. So no name is
there twice, and what is listed under a name is what is found under it. A new name is put between the
smaller and the greater ones and moves none of them. -/
namespace NamedSql.NameOrder
open ParameterNames

variable {α : Type} {name other : String} {value : α} {entries : List (String × α)}

/-- Whether the names of some entries increase. -/
def Increasing (entries : List (String × α)) : Prop := entries.Pairwise fun a b => a.1 < b.1

private theorem greater {a b : String} (least : ¬a < b) (different : a ≠ b) : b < a := by
  refine Decidable.not_not.mp fun most => different ?_
  exact String.le_antisymm (String.not_lt.mp most) (String.not_lt.mp least)

theorem mem_put {entry : String × α} (member : entry ∈ NameMap.put name value entries) :
    entry = (name, value) ∨ entry ∈ entries := by
  induction entries with
  | nil => exact Or.inl (List.mem_singleton.mp member)
  | cons first rest ih =>
    unfold NameMap.put at member
    split at member
    · exact List.mem_cons.mp member
    · split at member
      · exact (List.mem_cons.mp member).imp_right (List.mem_cons_of_mem _)
      · rcases List.mem_cons.mp member with rfl | later
        · exact Or.inr (List.mem_cons_self ..)
        · exact (ih later).imp_right (List.mem_cons_of_mem _)

theorem increasing_put (increasing : Increasing entries) (name : String) (value : α) :
    Increasing (NameMap.put name value entries) := by
  induction entries with
  | nil => exact List.pairwise_singleton _ _
  | cons first rest ih =>
    obtain ⟨least, later⟩ := List.pairwise_cons.mp increasing
    unfold NameMap.put
    split
    · rename_i smaller
      refine List.pairwise_cons.mpr ⟨fun entry member => ?_, increasing⟩
      rcases List.mem_cons.mp member with rfl | behind
      · exact smaller
      · exact String.lt_trans smaller (least entry behind)
    · rename_i notSmaller
      split
      · rename_i same
        subst same
        exact List.pairwise_cons.mpr ⟨least, later⟩
      · rename_i different
        refine List.pairwise_cons.mpr ⟨fun entry member => ?_, ih later⟩
        rcases mem_put member with rfl | behind
        · exact greater notSmaller different
        · exact least entry behind

theorem increasing_insertAll {m : NameMap α} (increasing : Increasing m.entries)
    (pairs : List (String × α)) : Increasing (m.insertAll pairs).entries := by
  unfold NameMap.insertAll
  induction pairs generalizing m with
  | nil => exact increasing
  | cons pair pairs ih => exact ih (increasing_put increasing pair.1 pair.2)

/-- However a map is built, its names increase. -/
theorem increasing_ofList (pairs : List (String × α)) : Increasing (NameMap.ofList pairs).entries :=
  increasing_insertAll List.Pairwise.nil pairs

/-- Under a name is found what is listed under it. -/
theorem lookup_eq_some_iff (increasing : Increasing entries) :
    entries.lookup name = some value ↔ (name, value) ∈ entries := by
  induction entries with
  | nil => simp
  | cons first rest ih =>
    obtain ⟨key, held⟩ := first
    obtain ⟨least, later⟩ := List.pairwise_cons.mp increasing
    by_cases same : key = name
    · subst same
      have unique : (key, value) ∉ rest := fun behind =>
        String.lt_irrefl key (least (key, value) behind)
      simp [unique, eq_comm]
    · have different : (name == key) = false := beq_eq_false_iff_ne.mpr (Ne.symm same)
      simp [List.lookup_cons, different, Ne.symm same, ih later]

theorem lookup_eq_none_iff : entries.lookup name = none ↔ name ∉ entries.map Prod.fst :=
  get?_eq_none (r := ⟨entries⟩)

/-- What entries are put over is found only under names that they do not have. -/
theorem get?_insertAll (m : NameMap α) {pairs : List (String × α)} (increasing : Increasing pairs)
    (name : String) : (m.insertAll pairs).get? name = (pairs.lookup name).or (m.get? name) := by
  unfold NameMap.insertAll
  induction pairs generalizing m with
  | nil => rfl
  | cons pair pairs ih =>
    obtain ⟨key, held⟩ := pair
    obtain ⟨least, later⟩ := List.pairwise_cons.mp increasing
    rw [List.foldl_cons, ih _ later, NameMap.get?_insert]
    by_cases same : name = key
    · subst same
      have absent : pairs.lookup name = none := by
        apply lookup_eq_none_iff.mpr
        intro behind
        obtain ⟨entry, member, repeated⟩ := List.mem_map.mp behind
        exact String.lt_irrefl name (repeated ▸ least entry member)
      simp [absent]
    · have different : (name == key) = false := beq_eq_false_iff_ne.mpr same
      simp [List.lookup_cons, same, different]

/-- Entries under which the same is found for every name are the same entries. -/
theorem eq_of_lookup {others : List (String × α)} (increasing : Increasing entries)
    (ordered : Increasing others) (same : ∀ name, entries.lookup name = others.lookup name) :
    entries = others := by
  have irreflexive : Std.Irrefl fun a b : String × α => a.1 < b.1 :=
    ⟨fun entry => String.lt_irrefl entry.1⟩
  have antisymmetric : Std.Antisymm fun a b : String × α => a.1 < b.1 :=
    ⟨fun _ _ before behind => absurd behind (String.lt_asymm before)⟩
  refine List.Pairwise.eq_of_mem_iff increasing ordered fun entry => ?_
  rw [← lookup_eq_some_iff increasing, ← lookup_eq_some_iff ordered, same]

/-- A new name is put between others. -/
theorem put_fresh (fresh : name ∉ entries.map Prod.fst) (value : α) :
    ∃ before behind, entries = before ++ behind ∧
      NameMap.put name value entries = before ++ (name, value) :: behind := by
  induction entries with
  | nil => exact ⟨[], [], rfl, rfl⟩
  | cons first rest ih =>
    rw [List.map_cons, List.mem_cons, not_or] at fresh
    unfold NameMap.put
    split
    · exact ⟨[], first :: rest, rfl, rfl⟩
    · rw [if_neg fresh.1]
      obtain ⟨before, behind, whole, put⟩ := ih fresh.2
      exact ⟨first :: before, behind, by rw [whole, List.cons_append],
        by rw [put, List.cons_append]⟩

/-- A name greater than all others is put behind them. -/
theorem put_last (greatest : ∀ entry ∈ entries, entry.1 < name) (value : α) :
    NameMap.put name value entries = entries ++ [(name, value)] := by
  induction entries with
  | nil => rfl
  | cons first rest ih =>
    have smaller := greatest first (List.mem_cons_self ..)
    unfold NameMap.put
    rw [if_neg (String.lt_asymm smaller), if_neg, ih, List.cons_append]
    · exact fun entry member => greatest entry (List.mem_cons_of_mem _ member)
    · rintro rfl
      exact String.lt_irrefl _ smaller

end NamedSql.NameOrder
