import Mathlib.Data.List.TakeWhile
import NamedSql.Sql.Reference
import NamedSql.Proofs.VerbatimBoundaries

/-! The parts of an operation's statement, one equation for each kind. A statement is read from left
to right as literals and comments, references, and other single characters; every later argument
about references is an induction over exactly these cases. -/
namespace NamedSql.StatementParts
open Sql VerbatimBoundaries

/-- Between braces a reference has a name that is not empty, and nothing but name characters. -/
def IsName (name : List Char) : Prop := name ≠ [] ∧ ∀ c ∈ name, isNameChar c = true

/-- A run of name characters ends before the first character that is none. -/
theorem name_cut {name : List Char} {c : Char} (named : ∀ d ∈ name, isNameChar d = true)
    (stop : isNameChar c = false) (rest : List Char) :
    (name ++ c :: rest).takeWhile isNameChar = name ∧
      (name ++ c :: rest).dropWhile isNameChar = c :: rest := by
  rw [List.takeWhile_append_of_pos named, List.dropWhile_append_of_pos named]
  simp [stop]

/-- What follows an opening brace is a reference exactly when it is a name and a closing brace. -/
theorem reference?_eq_some {s rest : List Char} {part : Part} :
    Part.reference? s = some (part, rest) ↔
      ∃ name, IsName name ∧ s = name ++ '\x7d' :: rest ∧ part = .reference name := by
  constructor
  · intro found
    unfold Part.reference? at found
    split at found
    · rename_i c name rest' taken dropped
      cases found
      have whole := List.takeWhile_append_dropWhile (p := isNameChar) (l := s)
      rw [taken, dropped] at whole
      refine ⟨c :: name, ⟨by simp, ?_⟩, whole.symm, rfl⟩
      intro d member
      rw [← taken] at member
      exact List.mem_takeWhile_imp member
    · cases found
  · rintro ⟨name, ⟨nonempty, named⟩, rfl, rfl⟩
    obtain ⟨taken, dropped⟩ := name_cut named (by decide : isNameChar '\x7d' = false) rest
    unfold Part.reference?
    rw [taken, dropped]
    cases name with
    | nil => exact absurd rfl nonempty
    | cons c name => rfl

private theorem parts_first {s rest : List Char} {part : Part}
    (found : Part.first? s = some (part, rest)) : parts s = part :: parts rest := by
  rw [parts]
  split
  · rename_i nothing
    rw [found] at nothing
    cases nothing
  · rename_i same
    rw [found] at same
    cases same
    rfl

@[simp] theorem parts_nil : parts [] = [] := by
  rw [parts]
  rfl

theorem parts_verbatim {s text rest : List Char} (found : verbatim? s = some (text, rest)) :
    parts s = .verbatim text :: parts rest :=
  parts_first (by rw [Part.first?, found])

private theorem verbatim?_brace (s : List Char) : verbatim? ('\x7b' :: s) = none :=
  verbatim?_cons_none.mpr (by simp [opens])

theorem parts_reference {name rest : List Char} (named : IsName name) :
    parts ('\x7b' :: (name ++ '\x7d' :: rest)) = .reference name :: parts rest := by
  have found : Part.reference? (name ++ '\x7d' :: rest) = some (.reference name, rest) :=
    reference?_eq_some.mpr ⟨name, named, rfl, rfl⟩
  exact parts_first (by simp [Part.first?, verbatim?_brace, Part.plain?, found])

/-- Any other character is a part of its own. -/
theorem parts_other {c : Char} {s : List Char} (closed : opens c s.head? = false)
    (unreferenced : c = '\x7b' → Part.reference? s = none) :
    parts (c :: s) = .other c :: parts s := by
  have plain : verbatim? (c :: s) = none := verbatim?_cons_none.mpr closed
  apply parts_first
  simp only [Part.first?, plain, Part.plain?]
  split
  · rename_i brace
    rw [unreferenced brace]
  · rfl

/-- Reading a statement part by part. -/
theorem parts_induction {motive : List Char → Prop} (nil : motive [])
    (verbatim : ∀ s text rest, verbatim? s = some (text, rest) → motive rest → motive s)
    (reference : ∀ name rest, IsName name → motive rest →
      motive ('\x7b' :: (name ++ '\x7d' :: rest)))
    (other : ∀ c rest, opens c rest.head? = false →
      (c = '\x7b' → Part.reference? rest = none) → motive rest → motive (c :: rest)) :
    ∀ s, motive s := by
  intro s
  induction length : s.length using Nat.strongRecOn generalizing s with
  | ind n ih =>
    subst length
    cases s with
    | nil => exact nil
    | cons c s =>
      cases found : verbatim? (c :: s) with
      | some cut =>
        obtain ⟨text, rest⟩ := cut
        exact verbatim _ _ _ found (ih _ (verbatim?_length found) _ rfl)
      | none =>
        have closed := verbatim?_cons_none.mp found
        have shorter : motive s := ih _ (by simp) _ rfl
        by_cases brace : c = '\x7b'
        · subst brace
          cases read : Part.reference? s with
          | none => exact other _ _ closed (fun _ => read) shorter
          | some cut =>
            obtain ⟨part, rest⟩ := cut
            obtain ⟨name, named, rfl, rfl⟩ := reference?_eq_some.mp read
            exact reference _ _ named (ih _ (by simp; omega) _ rfl)
        · exact other _ _ closed (fun same => absurd same brace) shorter

/-- The name that a part refers to. -/
def referenceName? : Part → Option String
  | .reference name => some (String.ofList name)
  | _ => none

theorem references_eq (sql : String) :
    references sql = (parts sql.toList).filterMap referenceName? := rfl

end NamedSql.StatementParts
