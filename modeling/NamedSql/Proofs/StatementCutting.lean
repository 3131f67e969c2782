import Mathlib.Data.List.Infix
import NamedSql.Proofs.AppendedText

/-! How a statement is cut into pieces, said without a scan. A literal or comment runs from what opens it
through the first characters that close it, or to the end if none do; a pair of colons stands together;
a colon with a name behind it is a placeholder, whose name is as long as it can be; and any other
character is a piece of its own. From left to right there is exactly one way to cut a statement so, and
it is the one that the scan finds. -/
namespace NamedSql.StatementCutting
open Sql VerbatimBoundaries StatementPieces AppendedText

variable {s text rest behind : List Char}

/-- What opens a literal or comment, and what closes it. -/
def delimiters : List (List Char × List Char) :=
  [(['\''], ['\'']), (['"'], ['"']), (['-', '-'], ['\n']), (['/', '*'], ['*', '/'])]

/-- Whether a text is a literal or comment, given the rest of the statement behind it. -/
inductive Spans : List Char → List Char → Prop
  | closed {opening closing inside rest : List Char} (kind : (opening, closing) ∈ delimiters)
    (first : ¬closing <:+: inside ++ closing.dropLast) : Spans (opening ++ (inside ++ closing)) rest
  | unclosed {opening closing inside : List Char} (kind : (opening, closing) ∈ delimiters)
    (never : ¬closing <:+: inside) : Spans (opening ++ inside) []

/-- Whether a statement is cut into pieces from left to right. -/
inductive Cut : List Char → List Piece → Prop
  | nil : Cut [] []
  | verbatim {text rest : List Char} {ps : List Piece} (spans : Spans text rest)
    (later : Cut rest ps) : Cut (text ++ rest) (.verbatim text :: ps)
  | doubleColon {rest : List Char} {ps : List Piece} (later : Cut rest ps) :
    Cut (':' :: ':' :: rest) (.doubleColon :: ps)
  | placeholder {c : Char} {name rest : List Char} {ps : List Piece} (start : isNameStart c = true)
    (named : ∀ d ∈ name, isNameChar d = true)
    (longest : ∀ d, rest.head? = some d → isNameChar d = false) (later : Cut rest ps) :
    Cut (':' :: c :: (name ++ rest)) (.placeholder (c :: name) :: ps)
  | other {c : Char} {rest : List Char} {ps : List Piece}
    (unspanned : ∀ text behind, Spans text behind → text ++ behind ≠ c :: rest)
    (lone : c = ':' → ∀ d, rest.head? = some d → d ≠ ':' ∧ isNameStart d = false)
    (later : Cut rest ps) : Cut (c :: rest) (.other c :: ps)

/-- A cut after the first of a character, or at the end without it. -/
private theorem through_cases (c : Char) (s : List Char) :
    (∃ inside, (through c s).1 = inside ++ [c] ∧ c ∉ inside) ∨
      (through c s = (s, []) ∧ c ∉ s) := by
  induction s with
  | nil => exact Or.inr ⟨rfl, List.not_mem_nil⟩
  | cons d s ih =>
    rw [through_cons]
    split
    · exact Or.inl ⟨[], rfl, List.not_mem_nil⟩
    · rename_i different
      have absent {t : List Char} (later : c ∉ t) : c ∉ d :: t := by
        rw [List.mem_cons, not_or]
        exact ⟨Ne.symm different, later⟩
      rcases ih with ⟨inside, found, first⟩ | ⟨whole, never⟩
      · exact Or.inl ⟨d :: inside, by rw [found]; rfl, absent first⟩
      · exact Or.inr ⟨by rw [whole], absent never⟩

private theorem close_cons {c : Char} {s : List Char} :
    ['*', '/'] <:+: c :: s ↔ (c = '*' ∧ s.head? = some '/') ∨ ['*', '/'] <:+: s := by
  rw [← Text.contains_iff, closes_cons, Text.contains_iff]

private theorem throughClose_cases (s : List Char) :
    (∃ inside, (throughClose s).1 = inside ++ ['*', '/'] ∧ ¬['*', '/'] <:+: inside ++ ['*']) ∨
      (throughClose s = (s, []) ∧ ¬['*', '/'] <:+: s) := by
  fun_induction throughClose s with
  | case1 => exact Or.inr ⟨rfl, by simp⟩
  | case2 s => exact Or.inl ⟨[], rfl, by simp [close_cons]⟩
  | case3 c s passing ih =>
    have open_ : ¬(c = '*' ∧ s.head? = some '/') := by
      rintro ⟨rfl, slash⟩
      obtain ⟨rest, rfl⟩ := List.head?_eq_some_iff.mp slash
      exact passing rest rfl rfl
    rcases ih with ⟨inside, found, first⟩ | ⟨whole, never⟩
    · refine Or.inl ⟨c :: inside, by rw [found]; rfl, ?_⟩
      rw [List.cons_append, close_cons, not_or]
      refine ⟨fun both => open_ ⟨both.1, ?_⟩, first⟩
      have whole := throughClose_append s
      rw [found] at whole
      rw [← whole]
      cases inside with
      | nil => cases both.2
      | cons d inside => exact both.2
    · refine Or.inr ⟨by rw [whole], ?_⟩
      rw [close_cons, not_or]
      exact ⟨open_, never⟩

private theorem throughClose_first {inside : List Char} (first : ¬['*', '/'] <:+: inside ++ ['*'])
    (rest : List Char) :
    throughClose (inside ++ '*' :: '/' :: rest) = (inside ++ ['*', '/'], rest) := by
  induction inside with
  | nil => rfl
  | cons c inside ih =>
    rw [List.cons_append, close_cons, not_or] at first
    have passing : ¬(c = '*' ∧ (inside ++ '*' :: '/' :: rest).head? = some '/') := by
      cases inside with
      | nil => exact fun both => first.1 ⟨both.1, by cases both.2⟩
      | cons d inside => exact first.1
    rw [List.cons_append, throughClose_cons passing, ih first.2]
    rfl

private theorem throughClose_never {s : List Char} (never : ¬['*', '/'] <:+: s) :
    throughClose s = (s, []) := by
  rcases throughClose_cases s with ⟨inside, found, _⟩ | ⟨whole, _⟩
  · have whole := throughClose_append s
    rw [found] at whole
    exact absurd ⟨inside, _, whole⟩ never
  · exact whole

private theorem through_first {c : Char} {inside : List Char} (first : c ∉ inside)
    (rest : List Char) : through c (inside ++ c :: rest) = (inside ++ [c], rest) := by
  rw [through_of_absent first, through_cons, if_pos rfl]

private theorem through_never {c : Char} {s : List Char} (never : c ∉ s) :
    through c s = (s, []) := by
  have whole := through_of_absent never []
  rwa [List.append_nil, through_nil, List.append_nil] at whole

/-- What the scan finds is a literal or comment. -/
theorem spans_of_verbatim? (found : verbatim? s = some (text, rest)) : Spans text rest := by
  have quoted (opening : List Char) {c : Char} {inside : List Char}
      (kind : (opening, [c]) ∈ delimiters) :
      Spans (opening ++ (through c inside).1) (through c inside).2 := by
    rcases through_cases c inside with ⟨within, cut, first⟩ | ⟨whole, never⟩
    · rw [cut]
      exact .closed kind (by simpa [List.singleton_infix_iff] using first)
    · rw [whole]
      exact .unclosed kind (by simpa [List.singleton_infix_iff] using never)
  have block {inside : List Char} :
      Spans (['/', '*'] ++ (throughClose inside).1) (throughClose inside).2 := by
    rcases throughClose_cases inside with ⟨within, cut, first⟩ | ⟨whole, never⟩
    · rw [cut]
      exact .closed (by simp [delimiters]) first
    · rw [whole]
      exact .unclosed (by simp [delimiters]) never
  unfold verbatim? at found
  split at found
  · cases found
    exact quoted ['\''] (by simp [delimiters])
  · cases found
    exact quoted ['"'] (by simp [delimiters])
  · cases found
    exact quoted ['-', '-'] (by simp [delimiters])
  · cases found
    exact block
  · cases found

/-- A literal or comment is what the scan finds. -/
theorem verbatim?_of_spans (spans : Spans text rest) : verbatim? (text ++ rest) = some (text, rest) := by
  cases spans with
  | closed kind first =>
    simp only [delimiters, List.mem_cons, Prod.mk.injEq, List.not_mem_nil, or_false] at kind
    rcases kind with ⟨rfl, rfl⟩ | ⟨rfl, rfl⟩ | ⟨rfl, rfl⟩ | ⟨rfl, rfl⟩
    · simp [verbatim?, through_first (by simpa [List.singleton_infix_iff] using first)]
    · simp [verbatim?, through_first (by simpa [List.singleton_infix_iff] using first)]
    · simp [verbatim?, through_first (by simpa [List.singleton_infix_iff] using first)]
    · simp [verbatim?, throughClose_first first]
  | unclosed kind never =>
    simp only [delimiters, List.mem_cons, Prod.mk.injEq, List.not_mem_nil, or_false] at kind
    rcases kind with ⟨rfl, rfl⟩ | ⟨rfl, rfl⟩ | ⟨rfl, rfl⟩ | ⟨rfl, rfl⟩
    · simp [verbatim?, through_never (by simpa [List.singleton_infix_iff] using never)]
    · simp [verbatim?, through_never (by simpa [List.singleton_infix_iff] using never)]
    · simp [verbatim?, through_never (by simpa [List.singleton_infix_iff] using never)]
    · simp [verbatim?, throughClose_never never]

/-- A cut finds the pieces that the scan does. -/
theorem pieces_of_cut {ps : List Piece} (cut : Cut s ps) : ps = pieces s := by
  induction cut with
  | nil => exact pieces_nil.symm
  | verbatim spans later ih => rw [pieces_verbatim (verbatim?_of_spans spans), ih]
  | doubleColon later ih => rw [pieces_doubleColon, ih]
  | placeholder start named longest later ih =>
    rename_i c name rest ps
    have stop : rest.head?.any isNameChar = false := by
      cases next : rest.head? with
      | none => rfl
      | some d => exact longest d next
    rw [pieces_named start named stop, ih]
  | other unspanned lone later ih =>
    rename_i c rest ps
    have unquoted : verbatim? (c :: rest) = none := by
      cases found : verbatim? (c :: rest) with
      | none => rfl
      | some span => exact absurd (verbatim?_append found) (unspanned _ _ (spans_of_verbatim? found))
    by_cases colon : c = ':'
    · subst colon
      have alone : isLoneColon rest.head? = true := by
        cases next : rest.head? with
        | none => rfl
        | some d =>
          obtain ⟨single, unnamed⟩ := lone rfl d next
          simp [isLoneColon, single, unnamed]
      rw [pieces_loneColon alone, ih]
    · rw [pieces_other (verbatim?_cons_none.mp unquoted) colon, ih]

/-- What the scan finds is a cut. -/
theorem cut_pieces (s : List Char) : Cut s (pieces s) := by
  have unspanned {c : Char} {rest : List Char} (closed : opens c rest.head? = false)
      (text behind : List Char) (spans : Spans text behind) : text ++ behind ≠ c :: rest := by
    intro same
    have found := verbatim?_of_spans spans
    rw [same, verbatim?_cons_none.mpr closed] at found
    cases found
  induction s using pieces_induction with
  | nil =>
    rw [pieces_nil]
    exact .nil
  | verbatim s text rest found ih =>
    rw [pieces_verbatim found, ← verbatim?_append found]
    exact .verbatim (spans_of_verbatim? found) ih
  | doubleColon rest ih =>
    rw [pieces_doubleColon]
    exact .doubleColon ih
  | placeholder c name rest start named stop ih =>
    rw [pieces_named start named stop]
    refine .placeholder start named (fun d next => ?_) ih
    rw [next] at stop
    exact stop
  | colon rest lone ih =>
    rw [pieces_loneColon lone]
    refine .other (unspanned (by simp [opens])) (fun _ d next => ?_) ih
    rw [next] at lone
    simpa [isLoneColon] using lone
  | other c rest closed plain ih =>
    rw [pieces_other closed plain]
    exact .other (unspanned closed) (fun colon => absurd colon plain) ih

/-- There is one way to cut a statement into pieces. -/
theorem cut_iff {ps : List Piece} : Cut s ps ↔ ps = pieces s :=
  ⟨pieces_of_cut, by rintro rfl; exact cut_pieces s⟩

end NamedSql.StatementCutting
