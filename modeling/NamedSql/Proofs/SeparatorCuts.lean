import Mathlib.Data.List.Infix
import Mathlib.Data.List.TakeWhile
import NamedSql.Text.Split

/-! Texts that are cut at a separator. What the cuts are is said without scanning: at the first occurrence,
the separator begins nowhere earlier, and behind the last one the character does not occur again. -/
namespace NamedSql.SeparatorCuts

variable {sep s before after : List Char}

private theorem isPrefixOf?_eq_none_iff : sep.isPrefixOf? s = none ↔ ¬sep <+: s := by
  simp only [Option.eq_none_iff_forall_ne_some, ne_eq, List.isPrefixOf?_eq_some_iff_append_eq]
  exact not_exists.symm

/-- A text is left uncut where the separator does not occur. -/
theorem splitFirst_eq_none_iff (visible : sep ≠ []) :
    Text.splitFirst sep s = none ↔ ¬sep <:+: s := by
  induction s with
  | nil => simp [Text.splitFirst, visible]
  | cons c s ih =>
    rw [List.infix_cons_iff, not_or, ← ih, ← isPrefixOf?_eq_none_iff, Text.splitFirst]
    cases sep.isPrefixOf? (c :: s) with
    | none => simp
    | some rest => simp

/-- A separator that stands further in front than the cut begins there already if the last character of the
one at the cut is taken away. -/
private theorem prefix_front_iff (further : before ≠ []) :
    sep <+: before ++ (sep ++ after) ↔ sep <+: before ++ sep.dropLast := by
  have front : before ++ sep.dropLast <+: before ++ (sep ++ after) :=
    (List.prefix_append_right_inj before).mpr ((List.dropLast_prefix sep).trans (List.prefix_append ..))
  have long := List.length_pos_iff.mpr further
  constructor
  · intro begins
    apply List.prefix_of_prefix_length_le begins front
    rw [List.length_append, List.length_dropLast]
    omega
  · intro begins
    exact begins.trans front

/-- A text is cut where the separator occurs first: it is found neither in what stands before the cut, nor
across it. -/
theorem splitFirst_eq_some_iff (visible : sep ≠ []) :
    Text.splitFirst sep s = some (before, after) ↔
      s = before ++ (sep ++ after) ∧ ¬sep <:+: before ++ sep.dropLast := by
  have positive := List.length_pos_iff.mpr visible
  induction s generalizing before with
  | nil => simp [Text.splitFirst, visible]
  | cons c s ih =>
    rw [Text.splitFirst]
    cases found : sep.isPrefixOf? (c :: s) with
    | some rest =>
      have begins := List.isPrefixOf?_eq_some_iff_append_eq.mp found
      constructor
      · rintro ⟨⟩
        refine ⟨begins.symm, fun inside => ?_⟩
        have short := inside.length_le
        rw [List.nil_append, List.length_dropLast] at short
        omega
      · rintro ⟨whole, first⟩
        cases before with
        | nil =>
          rw [← begins, List.nil_append, List.append_cancel_left_eq] at whole
          rw [whole]
        | cons d before =>
          rw [whole] at begins
          have earlier := (prefix_front_iff (List.cons_ne_nil d before)).mp ⟨rest, begins⟩
          exact absurd earlier.isInfix first
    | none =>
      have absent := isPrefixOf?_eq_none_iff.mp found
      simp only [Option.map_eq_some_iff, Prod.exists, Prod.mk.injEq]
      constructor
      · rintro ⟨front, _, cut, rfl, rfl⟩
        obtain ⟨rfl, first⟩ := ih.mp cut
        refine ⟨rfl, ?_⟩
        rw [List.cons_append, List.infix_cons_iff, not_or]
        refine ⟨fun begins => absent ?_, first⟩
        exact (prefix_front_iff (List.cons_ne_nil c front)).mpr begins
      · rintro ⟨whole, first⟩
        cases before with
        | nil => exact absurd ⟨after, whole.symm⟩ absent
        | cons d before =>
          rw [List.cons_append, List.cons.injEq] at whole
          obtain ⟨rfl, rfl⟩ := whole
          rw [List.cons_append, List.infix_cons_iff, not_or] at first
          exact ⟨before, after, ih.mpr ⟨rfl, first.2⟩, rfl, rfl⟩

/-- A text is cut where the character occurs last. -/
theorem splitLast_eq_some_iff {c : Char} :
    Text.splitLast c s = some (before, after) ↔ s = before ++ c :: after ∧ c ∉ after := by
  constructor
  · intro cut
    refine ⟨(Text.splitLast_append cut).symm, fun member => ?_⟩
    rw [Text.splitLast] at cut
    split at cut
    · cases cut
    · cases cut
      have passed := List.mem_takeWhile_imp (List.mem_reverse.mp member)
      simp at passed
  · rintro ⟨rfl, absent⟩
    have passed : ∀ d ∈ after.reverse, (d != c) = true := by
      intro d member
      rw [bne_iff_ne]
      rintro rfl
      exact absent (List.mem_reverse.mp member)
    have reversed : (before ++ c :: after).reverse = after.reverse ++ c :: before.reverse := by simp
    rw [Text.splitLast, reversed, List.dropWhile_append_of_pos passed,
      List.takeWhile_append_of_pos passed]
    simp

/-- A text is left uncut where the character does not occur. -/
theorem splitLast_eq_none_iff {c : Char} : Text.splitLast c s = none ↔ c ∉ s := by
  constructor
  · intro uncut member
    obtain ⟨behind, front, reversed, absent⟩ :=
      List.eq_append_cons_of_mem (List.mem_reverse.mpr member)
    have whole : s = front.reverse ++ c :: behind.reverse := by
      simpa using congrArg List.reverse reversed
    rw [splitLast_eq_some_iff.mpr ⟨whole, by simpa using absent⟩] at uncut
    cases uncut
  · intro absent
    rw [Option.eq_none_iff_forall_ne_some]
    rintro ⟨before, after⟩ cut
    rw [(splitLast_eq_some_iff.mp cut).1] at absent
    simp at absent

end NamedSql.SeparatorCuts
