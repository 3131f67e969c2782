/-!
Maps from names, kept in the order of the names. Inserting under a name that is there replaces its
value.
-/
namespace NamedSql

/-- Values under names, listed in increasing order of the names. -/
structure NameMap (α : Type) where
  entries : List (String × α)
deriving Repr, Inhabited

namespace NameMap

variable {α : Type}

/-- Nothing under any name. -/
def empty : NameMap α := ⟨[]⟩

/-- `entries` with `value` under `name`, before the greater names. -/
def put (name : String) (value : α) : List (String × α) → List (String × α)
  | [] => [(name, value)]
  | entry :: rest =>
    if name < entry.1 then (name, value) :: entry :: rest
    else if name = entry.1 then (name, value) :: rest
    else entry :: put name value rest

/-- The map with `value` under `name`. -/
def insert (m : NameMap α) (name : String) (value : α) : NameMap α := ⟨put name value m.entries⟩

/-- The value under `name`. -/
def get? (m : NameMap α) (name : String) : Option α := m.entries.lookup name

/-- Whether there is a value under `name`. -/
def contains (m : NameMap α) (name : String) : Bool := (m.get? name).isSome

/-- The values, in the order of their names. -/
def values (m : NameMap α) : List α := m.entries.map Prod.snd

/-- How many names there are. -/
def size (m : NameMap α) : Nat := m.entries.length

/-- The map with all the pairs inserted, in their order. -/
def insertAll (m : NameMap α) (pairs : List (String × α)) : NameMap α :=
  pairs.foldl (fun m pair => m.insert pair.1 pair.2) m

/-- The map of the pairs, inserted in their order. -/
def ofList (pairs : List (String × α)) : NameMap α := empty.insertAll pairs

@[simp] theorem get?_empty (name : String) : (empty : NameMap α).get? name = none := rfl

private theorem lookup_cons (entry : String × α) (rest : List (String × α)) (other : String) :
    List.lookup other (entry :: rest) =
      if other = entry.1 then some entry.2 else rest.lookup other := by
  obtain ⟨key, old⟩ := entry
  by_cases h : other = key
  · simp [h]
  · simp [List.lookup_cons, h, beq_eq_false_iff_ne.mpr h]

theorem lookup_put (name other : String) (value : α) (entries : List (String × α)) :
    (put name value entries).lookup other =
      if other = name then some value else entries.lookup other := by
  induction entries with
  | nil => simp [put, lookup_cons]
  | cons entry rest ih =>
    unfold put
    split
    · simp [lookup_cons]
    · split
      · next equal => subst equal; by_cases h : other = entry.1 <;> simp [lookup_cons, h]
      · next unequal =>
        by_cases h : other = entry.1
        · subst h
          simp [lookup_cons, Ne.symm unequal]
        · simp [lookup_cons, h, ih]

theorem get?_insert (m : NameMap α) (name other : String) (value : α) :
    (m.insert name value).get? other = if other = name then some value else m.get? other :=
  lookup_put name other value m.entries

end NameMap

end NamedSql
