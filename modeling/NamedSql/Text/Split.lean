/-!
Cutting a text at a separator: at its first occurrence, at its last, or at every one.
-/
namespace NamedSql.Text

/-- The parts before and after the first occurrence of `sep`. -/
def splitFirst (sep : List Char) : List Char → Option (List Char × List Char)
  | [] => none
  | c :: s =>
    match sep.isPrefixOf? (c :: s) with
    | some rest => some ([], rest)
    | none => (splitFirst sep s).map fun (before, after) => (c :: before, after)

/-- The parts before and after the last occurrence of `c`. -/
def splitLast (c : Char) (s : List Char) : Option (List Char × List Char) :=
  match s.reverse.dropWhile (· != c) with
  | [] => none
  | _ :: before => some (before.reverse, (s.reverse.takeWhile (· != c)).reverse)

/-- The parts between the occurrences of `c`, one more than there are occurrences. -/
def splitAll (c : Char) (s : List Char) : List (List Char) :=
  s.foldr (fun d parts =>
    if d = c then [] :: parts
    else match parts with
      | [] => [[d]]
      | part :: more => (d :: part) :: more) [[]]

/-- Whether `part` stands somewhere in the text. -/
def contains (part : List Char) : List Char → Bool
  | [] => part.isEmpty
  | c :: s => part.isPrefixOf (c :: s) || contains part s

theorem contains_iff {part s : List Char} : contains part s = true ↔ part <:+: s := by
  induction s with
  | nil => simp [contains]
  | cons c s ih => rw [contains, Bool.or_eq_true, ih, List.isPrefixOf_iff_prefix, List.infix_cons_iff]

theorem splitLast_append {c : Char} {s before after : List Char}
    (h : splitLast c s = some (before, after)) : before ++ c :: after = s := by
  unfold splitLast at h
  split at h
  · cases h
  · next d front found =>
    cases h
    have whole := List.takeWhile_append_dropWhile (p := (· != c)) (l := s.reverse)
    have first : (d != c) = false := by
      have head := List.head?_dropWhile_not (· != c) s.reverse
      rw [found] at head
      simpa using head
    simp only [bne_eq_false_iff_eq] at first
    rw [found, first] at whole
    have := congrArg List.reverse whole
    simpa using this

end NamedSql.Text
