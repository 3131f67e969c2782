import Mathlib.Data.Finset.Card
import Mathlib.Data.List.Basic
import NamedSql.Proofs.InsertionOrder

/-! A record is a table that remembers in which order its names came. However often values are inserted
under a name, it stands where it was first inserted and has the value that was inserted last. -/
namespace NamedSql.OrderedRecords
open ParameterNames InsertionOrder

variable {α : Type} {r : Record α} {pairs : List (String × α)}

/-- What a record is after insertions, told from these alone. -/
structure Arranges (pairs : List (String × α)) (r : Record α) : Prop where
  names : FirstSeen r.names (pairs.map Prod.fst)
  latest : ∀ name value, r.get? name = some value ↔
    ∃ earlier later, pairs = earlier ++ (name, value) :: later ∧ name ∉ later.map Prod.fst
  nothing : ∀ name, r.get? name = none ↔ name ∉ pairs.map Prod.fst
  contains : ∀ name, r.contains name = true ↔ ∃ value, r.get? name = some value
  listed : ∀ entry, entry ∈ r.entries ↔ r.get? entry.1 = some entry.2
  size : r.size = (pairs.map Prod.fst).toFinset.card

/-- Looking up from the end finds the last pair of a name. -/
private theorem lookup_reverse_eq_some {name : String} {value : α} :
    pairs.reverse.lookup name = some value ↔
      ∃ earlier later, pairs = earlier ++ (name, value) :: later ∧ name ∉ later.map Prod.fst := by
  rw [List.lookup_eq_some_iff]
  constructor
  · rintro ⟨behind, before, cut, absent⟩
    refine ⟨before.reverse, behind.reverse, ?_, fun member => ?_⟩
    · rw [← List.reverse_reverse pairs, cut]
      simp
    · obtain ⟨pair, inside, same⟩ := List.mem_map.mp member
      have different := absent pair (List.mem_reverse.mp inside)
      simp [same] at different
  · rintro ⟨earlier, later, rfl, absent⟩
    refine ⟨later.reverse, earlier.reverse, by simp, fun pair inside => ?_⟩
    have different : name ≠ pair.1 := by
      rintro rfl
      exact absent (List.mem_map_of_mem (List.mem_reverse.mp inside))
    simpa using different

/-- Where names are different, the entries are what is found under them. -/
theorem mem_entries_iff (distinct : r.names.Nodup) (entry : String × α) :
    entry ∈ r.entries ↔ r.get? entry.1 = some entry.2 := by
  rw [Record.get?, List.lookup_eq_some_iff]
  constructor
  · intro member
    obtain ⟨before, behind, cut⟩ := List.append_of_mem member
    refine ⟨before, behind, cut, fun other inside => ?_⟩
    have different : entry.1 ≠ other.1 := by
      rw [Record.names, cut, List.map_append, List.nodup_append] at distinct
      exact (distinct.2.2 other.1 (List.mem_map_of_mem inside) entry.1 (by simp)).symm
    simpa using different
  · rintro ⟨before, behind, cut, _⟩
    rw [cut]
    exact List.mem_append_right _ (List.mem_cons_self ..)

/-- There are as many entries as different names were inserted. -/
theorem size_of_firstSeen {occurrences : List String} (seen : FirstSeen r.names occurrences) :
    r.size = occurrences.toFinset.card := by
  have same : r.names.toFinset = occurrences.toFinset := by
    ext name
    simp [seen.members name]
  rw [← same, List.toFinset_card_of_nodup seen.once, Record.names, List.length_map, Record.size]

private theorem ofList_arranges (pairs : List (String × α)) : Arranges pairs (Record.ofList pairs) := by
  have names : FirstSeen (Record.ofList pairs).names (pairs.map Prod.fst) := by
    rw [Record.ofList, names_insertAll]
    exact firstSeen_addNames (pairs.map Prod.fst)
  have found (name : String) : (Record.ofList pairs).get? name = pairs.reverse.lookup name := by
    rw [Record.ofList, get?_insertAll, Record.get?_empty, Option.or_none]
  refine ⟨names, fun name value => ?_, fun name => ?_, fun name => ?_, mem_entries_iff names.once,
    size_of_firstSeen names⟩
  · rw [found, lookup_reverse_eq_some]
  · rw [get?_eq_none, names.members]
  · rw [Record.contains, Option.isSome_iff_exists]

/-- **Insertions arrange a record.** Whatever it was made of and whatever is inserted later, in whatever
order and however often, the names are there once each, in the order in which they first came, and each
has the value that came last. -/
theorem insertions_arrange (pairs later : List (String × α)) :
    Arranges (pairs ++ later) ((Record.ofList pairs).insertAll later) := by
  have one : (Record.ofList pairs).insertAll later = Record.ofList (pairs ++ later) := by
    unfold Record.ofList Record.insertAll
    exact List.foldl_append.symm
  rw [one]
  exact ofList_arranges (pairs ++ later)

example : (Record.ofList [("a", 1), ("b", 2), ("a", 3)]).entries = [("a", 3), ("b", 2)] := by
  decide

end NamedSql.OrderedRecords
