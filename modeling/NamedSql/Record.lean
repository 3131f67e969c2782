/-!
A record keeps values under names, in the order in which the names were first inserted. Inserting
under a name that is there replaces its value in place.
-/
namespace NamedSql

/-- Values under names, in the order of their first insertion. -/
structure Record (α : Type) where
  entries : List (String × α)
deriving DecidableEq, Repr, Inhabited

namespace Record

variable {α : Type}

/-- Nothing under any name. -/
def empty : Record α := ⟨[]⟩

/-- `entries` with `value` under `name`: in its place if the name is there, else at the end. -/
def put (name : String) (value : α) : List (String × α) → List (String × α)
  | [] => [(name, value)]
  | entry :: rest =>
    if entry.1 = name then (entry.1, value) :: rest else entry :: put name value rest

/-- The record with `value` under `name`. -/
def insert (r : Record α) (name : String) (value : α) : Record α := ⟨put name value r.entries⟩

/-- The value under `name`. -/
def get? (r : Record α) (name : String) : Option α := r.entries.lookup name

/-- Whether there is a value under `name`. -/
def contains (r : Record α) (name : String) : Bool := (r.get? name).isSome

/-- The names, in the order of their first insertion. -/
def names (r : Record α) : List String := r.entries.map Prod.fst

/-- How many names there are. -/
def size (r : Record α) : Nat := r.entries.length

/-- The record with all the pairs inserted, in their order. -/
def insertAll (r : Record α) (pairs : List (String × α)) : Record α :=
  pairs.foldl (fun r pair => r.insert pair.1 pair.2) r

/-- The record of the pairs, inserted in their order. -/
def ofList (pairs : List (String × α)) : Record α := empty.insertAll pairs

@[simp] theorem get?_empty (name : String) : (empty : Record α).get? name = none := rfl

private theorem lookup_cons_eq (entry : String × α) (rest : List (String × α)) (other : String) :
    List.lookup other (entry :: rest) =
      if other = entry.1 then some entry.2 else rest.lookup other := by
  obtain ⟨key, old⟩ := entry
  by_cases h : other = key
  · simp [h]
  · simp [List.lookup_cons, h, beq_eq_false_iff_ne.mpr h]

theorem lookup_put (entries : List (String × α)) (name other : String) (value : α) :
    (put name value entries).lookup other =
      if other = name then some value else entries.lookup other := by
  induction entries with
  | nil => simp [put, lookup_cons_eq]
  | cons entry rest ih =>
    by_cases h : entry.1 = name
    · by_cases h' : other = name <;> simp [put, lookup_cons_eq, h, h']
    · by_cases h' : other = entry.1
      · subst h'; simp [put, lookup_cons_eq, h]
      · simp [put, lookup_cons_eq, h, h', ih]

theorem get?_insert (r : Record α) (name other : String) (value : α) :
    (r.insert name value).get? other = if other = name then some value else r.get? other :=
  lookup_put r.entries name other value

theorem map_fst_put (entries : List (String × α)) (name : String) (value : α) :
    (put name value entries).map Prod.fst =
      if name ∈ entries.map Prod.fst then entries.map Prod.fst
      else entries.map Prod.fst ++ [name] := by
  induction entries with
  | nil => simp [put]
  | cons entry rest ih =>
    by_cases h : entry.1 = name
    · simp [put, h]
    · have h' : ¬ name = entry.1 := fun e => h e.symm
      by_cases hm : name ∈ rest.map Prod.fst <;> simp [put, h, h', ih, hm]

theorem names_insert (r : Record α) (name : String) (value : α) :
    (r.insert name value).names = if name ∈ r.names then r.names else r.names ++ [name] :=
  map_fst_put r.entries name value

end Record

end NamedSql
