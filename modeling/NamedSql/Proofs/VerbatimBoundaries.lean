import NamedSql.Sql.Verbatim

/-! Where a literal or comment begins is decided by two characters, and where it ends by its own
closing characters. What follows a closed one may therefore change freely, and so may whatever is
inside that neither opens nor closes anything. -/
namespace NamedSql.VerbatimBoundaries
open Sql

/-- Whether a character opens a literal or comment, given the character after it. -/
def opens (c : Char) (next : Option Char) : Bool :=
  c == '\'' || c == '"' || (c == '-' && next == some '-') || (c == '/' && next == some '*')

@[simp] theorem verbatim?_nil : verbatim? [] = none := rfl

/-- Scanning finds no literal or comment exactly where none is opened. -/
theorem verbatim?_cons_none {c : Char} {s : List Char} :
    verbatim? (c :: s) = none ↔ opens c s.head? = false := by
  unfold verbatim?
  split
  · rename_i same; cases same; simp [opens]
  · rename_i same; cases same; simp [opens]
  · rename_i same; cases same; simp [opens]
  · rename_i same; cases same; simp [opens]
  · rename_i single double line block
    simp only [true_iff, opens, Bool.or_eq_false_iff, Bool.and_eq_false_imp, beq_iff_eq,
      beq_eq_false_iff_ne]
    refine ⟨⟨⟨?_, ?_⟩, ?_⟩, ?_⟩
    · rintro rfl; exact single s rfl
    · rintro rfl; exact double s rfl
    · rintro rfl head
      cases s with
      | nil => cases head
      | cons d s => cases head; exact line s rfl
    · rintro rfl head
      cases s with
      | nil => cases head
      | cons d s => cases head; exact block s rfl

theorem through_nil (c : Char) : through c [] = ([], []) := rfl

theorem through_cons (c d : Char) (s : List Char) :
    through c (d :: s) =
      if d = c then ([c], s) else (d :: (through c s).1, (through c s).2) := by
  by_cases same : d = c
  · subst same; simp [through]
  · simp [through, same]

theorem throughClose_cons {c : Char} {s : List Char} (closing : ¬(c = '*' ∧ s.head? = some '/')) :
    throughClose (c :: s) = (c :: (throughClose s).1, (throughClose s).2) := by
  rw [throughClose]
  intro rest star slash
  exact closing ⟨star, by simp [slash]⟩

/-- A text without the closing character is passed over whole. -/
theorem through_of_absent {c : Char} {s : List Char} (absent : c ∉ s) (rest : List Char) :
    through c (s ++ rest) = (s ++ (through c rest).1, (through c rest).2) := by
  induction s with
  | nil => rfl
  | cons d s ih =>
    simp only [List.mem_cons, not_or] at absent
    simp [through_cons, Ne.symm absent.1, ih absent.2]

theorem throughClose_of_absent {s : List Char} (absent : '*' ∉ s) (rest : List Char) :
    throughClose (s ++ rest) = (s ++ (throughClose rest).1, (throughClose rest).2) := by
  induction s with
  | nil => rfl
  | cons d s ih =>
    simp only [List.mem_cons, not_or] at absent
    have passing : ¬(d = '*' ∧ (s ++ rest).head? = some '/') := fun both => absent.1 both.1.symm
    rw [List.cons_append, throughClose_cons passing, ih absent.2]
    rfl

/-- A text closed by its own last character keeps its end, whatever follows. -/
theorem through_tail {c : Char} {s rest : List Char} (ended : (through c s).2 = [] → rest = []) :
    through c ((through c s).1 ++ rest) = ((through c s).1, rest) := by
  induction s with
  | nil => rw [ended rfl]; rfl
  | cons d s ih =>
    by_cases same : d = c
    · simp [through_cons, same]
    · simp only [through_cons, same, ↓reduceIte] at ended
      simp [through_cons, same, ih ended]

theorem throughClose_tail {s rest : List Char} (ended : (throughClose s).2 = [] → rest = []) :
    throughClose ((throughClose s).1 ++ rest) = ((throughClose s).1, rest) := by
  fun_induction throughClose s with
  | case1 => rw [ended rfl]; rfl
  | case2 => rfl
  | case3 c s open_ ih =>
    have inside := ih ended
    rw [List.cons_append, throughClose_cons, inside]
    rintro ⟨star, slash⟩
    cases s with
    | nil => rw [ended rfl] at slash; cases slash
    | cons d s =>
      have first : ((throughClose (d :: s)).1 ++ rest).head? = some d := by
        unfold throughClose
        split <;> simp_all
      rw [first] at slash
      cases slash
      exact open_ s star rfl

/-- A literal or comment ends where it did when the text after it changes, provided that text
does not appear from nothing behind one that is not closed. -/
theorem verbatim?_tail {s text rest rest' : List Char} (found : verbatim? s = some (text, rest))
    (ended : rest = [] → rest' = []) : verbatim? (text ++ rest') = some (text, rest') := by
  unfold verbatim? at found
  split at found
  all_goals simp only [Option.some.injEq, Prod.mk.injEq, reduceCtorEq] at found
  all_goals obtain ⟨rfl, rfl⟩ := found
  · simp [verbatim?, through_tail ended]
  · simp [verbatim?, through_tail ended]
  · simp [verbatim?, through_tail ended]
  · simp [verbatim?, throughClose_tail ended]

end NamedSql.VerbatimBoundaries
