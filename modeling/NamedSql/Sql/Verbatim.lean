/-!
The parts of a statement that nothing looks into: quoted literals and comments. A literal runs from
a single or double quote through the next one of its kind; a doubled quote therefore ends one
literal and begins another. A comment runs from two dashes through the end of the line, or from a
slash and a star through the next star and slash. What is not closed runs to the end.
-/
namespace NamedSql.Sql

/-- Cuts a text after the first `c`; without one, at its end. -/
def through (c : Char) (s : List Char) : List Char × List Char :=
  let rest := s.dropWhile (· != c)
  (s.takeWhile (· != c) ++ rest.take 1, rest.drop 1)

/-- Cuts a text after the first star and slash; without them, at its end. -/
def throughClose : List Char → List Char × List Char
  | [] => ([], [])
  | '*' :: '/' :: rest => (['*', '/'], rest)
  | c :: rest => (c :: (throughClose rest).1, (throughClose rest).2)

/-- The literal or comment that a text begins with, and what follows it. -/
def verbatim? : List Char → Option (List Char × List Char)
  | '\'' :: rest => some ('\'' :: (through '\'' rest).1, (through '\'' rest).2)
  | '"' :: rest => some ('"' :: (through '"' rest).1, (through '"' rest).2)
  | '-' :: '-' :: rest => some ('-' :: '-' :: (through '\n' rest).1, (through '\n' rest).2)
  | '/' :: '*' :: rest => some ('/' :: '*' :: (throughClose rest).1, (throughClose rest).2)
  | _ => none

theorem through_append (c : Char) (s : List Char) : (through c s).1 ++ (through c s).2 = s := by
  rw [through, List.append_assoc, List.take_append_drop, List.takeWhile_append_dropWhile]

theorem throughClose_append (s : List Char) : (throughClose s).1 ++ (throughClose s).2 = s := by
  fun_induction throughClose s with
  | case1 => rfl
  | case2 => rfl
  | case3 c rest _ ih => simp [ih]

theorem verbatim?_append {s text rest : List Char} (h : verbatim? s = some (text, rest)) :
    text ++ rest = s := by
  unfold verbatim? at h
  split at h
  all_goals simp only [Option.some.injEq, Prod.mk.injEq, reduceCtorEq] at h
  all_goals obtain ⟨rfl, rfl⟩ := h
  all_goals simp [through_append, throughClose_append]

theorem verbatim?_ne_nil {s text rest : List Char} (h : verbatim? s = some (text, rest)) :
    text ≠ [] := by
  unfold verbatim? at h
  split at h
  all_goals simp only [Option.some.injEq, Prod.mk.injEq, reduceCtorEq] at h
  all_goals obtain ⟨rfl, rfl⟩ := h
  all_goals simp

/-- What follows a literal or comment is shorter than the text. -/
theorem verbatim?_length {s text rest : List Char} (h : verbatim? s = some (text, rest)) :
    rest.length < s.length := by
  have length := congrArg List.length (verbatim?_append h)
  have nonempty := List.length_pos_iff.2 (verbatim?_ne_nil h)
  rw [List.length_append] at length
  omega

/-- The characters of names: ASCII letters, digits and the underscore. -/
def isNameChar (c : Char) : Bool := c.isAlphanum || c = '_'

/-- The characters that a placeholder's name may begin with. -/
def isNameStart (c : Char) : Bool := c.isAlpha || c = '_'

end NamedSql.Sql
