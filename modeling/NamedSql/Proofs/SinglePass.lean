import NamedSql.Proofs.MarkerSplicing

/-! A statement is prepared in two passes, one that replaces the markers of the raw text and one
that reads the result for references. For an inert predicate they write what a single pass over the
raw text does, which never looks at anything that it has written. -/
namespace NamedSql.SinglePass
open Sql VerbatimBoundaries StatementParts MarkerSplicing

/-- One pass over the raw text from left to right. Literals and comments are copied with only their
markers replaced; elsewhere the predicate stands for each marker and a placeholder for each other
name between braces, and every other character is copied. -/
def singlePass (predicate : List Char) (s : List Char) : List Char :=
  match _found : verbatim? s with
  | some (text, rest) => spliced predicate text ++ singlePass predicate rest
  | none =>
    match s with
    | [] => []
    | c :: rest =>
      if beginsWithMarker (c :: rest) then
        predicate ++ singlePass predicate (rest.drop (marker.length - 1))
      else
        match _after : rest.dropWhile isNameChar with
        | '\x7d' :: after =>
          if c = '\x7b' ∧ rest.takeWhile isNameChar ≠ [] then
            ':' :: rest.takeWhile isNameChar ++ singlePass predicate after
          else c :: singlePass predicate rest
        | _ => c :: singlePass predicate rest
termination_by s.length
decreasing_by
  · exact verbatim?_length _found
  · simp only [List.length_drop, List.length_cons]; omega
  · have shorter := (List.dropWhile_suffix (l := rest) isNameChar).length_le
    rw [_after] at shorter
    simp only [List.length_cons] at shorter ⊢
    omega
  · simp
  · simp

/-- What the single pass writes for one part of the raw text. -/
def writtenPart (predicate : List Char) : Part → List Char
  | .verbatim text => spliced predicate text
  | .reference name => if isMarkerName name then predicate else ':' :: name
  | .other c => [c]

variable {p : List Char}

private theorem singlePass_plain {c : Char} {s : List Char} (closed : opens c s.head? = false)
    (unreferenced : c = '\x7b' → Part.reference? s = none) :
    singlePass p (c :: s) = c :: singlePass p s := by
  rw [singlePass]
  split
  · rename_i found
    rw [verbatim?_cons_none.mpr closed] at found
    cases found
  · simp only [unmarked_of_unreferenced unreferenced, Bool.false_eq_true, ↓reduceIte]
    split
    · rename_i after dropped
      split
      · rename_i both
        have whole := List.takeWhile_append_dropWhile (p := isNameChar) (l := s)
        rw [dropped] at whole
        have named : IsName (s.takeWhile isNameChar) :=
          ⟨both.2, fun d member => List.mem_takeWhile_imp member⟩
        have read := reference?_eq_some.mpr ⟨_, named, whole.symm, rfl⟩
        rw [unreferenced both.1] at read
        cases read
      · rfl
    · rfl

private theorem singlePass_brace {name rest : List Char} (named : IsName name) :
    singlePass p ('\x7b' :: (name ++ '\x7d' :: rest)) =
      (if isMarkerName name then p else ':' :: name) ++ singlePass p rest := by
  obtain ⟨taken, dropped⟩ := name_cut named.2 (by decide : isNameChar '\x7d' = false) rest
  rw [singlePass]
  split
  · rename_i found
    rw [verbatim?_cons_none.mpr (by simp [opens])] at found
    cases found
  · simp only [beginsWithMarker_reference named, taken]
    split
    · rename_i spelled
      rw [markerName_drop spelled]
    · split
      · rename_i after same
        rw [dropped] at same
        cases same
        simp [named.1]
      · rename_i other
        exact absurd dropped (other rest)

theorem singlePass_eq_parts (s : List Char) : singlePass p s = (parts s).flatMap (writtenPart p) := by
  induction s using parts_induction with
  | nil => simp [singlePass]
  | verbatim s text rest found ih =>
    rw [parts_verbatim found, singlePass]
    split
    · rename_i same
      rw [found] at same
      cases same
      simp [writtenPart, ih]
    · rename_i same
      rw [found] at same
      cases same
  | reference name rest named ih =>
    rw [parts_reference named, singlePass_brace named, ih]
    rfl
  | other c rest closed unreferenced ih =>
    rw [parts_other closed unreferenced,
      singlePass_plain closed unreferenced, ih]
    rfl

private theorem rewritten_splicedPart (part : Part) :
    (splicedPart p part).flatMap Part.rewritten = writtenPart p part := by
  cases part with
  | verbatim text => simp [splicedPart, writtenPart, Part.rewritten]
  | other c => simp [splicedPart, writtenPart, Part.rewritten]
  | reference name =>
    simp only [splicedPart, writtenPart]
    split
    · simp [List.flatMap_map, Part.rewritten]
    · simp [Part.rewritten]

/-- **Two passes write what one pass writes.** -/
theorem rewritten_spliced (inert : Inert p) (s : List Char) :
    (parts (spliced p s)).flatMap Part.rewritten = singlePass p s := by
  rw [parts_spliced inert, List.flatMap_assoc, singlePass_eq_parts]
  exact congrArg (List.flatMap · (parts s)) (funext rewritten_splicedPart)

end NamedSql.SinglePass
