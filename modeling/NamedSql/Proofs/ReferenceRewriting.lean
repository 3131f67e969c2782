import NamedSql.Proofs.AppendedClauses
import NamedSql.Proofs.MarkerSplicing
import NamedSql.Proofs.ReferenceBinding
import NamedSql.Proofs.SettledExpansion

/-! Rewriting a statement's references is done once. A reference is replaced by a colon and its name,
which open and close nothing, and the colon keeps any name before it from running up to a closing brace
behind it. So the literals and comments of the rewritten text are those of the statement, and whatever
braces are left there, they make no reference. -/
namespace NamedSql.ReferenceRewriting
open Sql VerbatimBoundaries StatementParts StatementPieces MarkerSplicing ReferenceBinding
open AppendedClauses SettledExpansion

/-- What a part of a statement is read as when references have been rewritten: a reference is plain
characters by then, and every other part is still itself. -/
def settledPart : Part → List Part
  | .reference name => (':' :: name).map .other
  | part => [part]

/-- The text of a part that is a literal or comment. -/
def spannedText? : Part → Option (List Char)
  | .verbatim text => some text
  | _ => none

/-- What the text of a statement is whose references have been rewritten: its literals and comments are
those of the statement, the references in it are plain characters, and nothing is left to rewrite or to
bind. -/
structure Rewrites (before after : String) : Prop where
  kept : verbatims after.toList = verbatims before.toList
  read : parts after.toList = (parts before.toList).flatMap settledPart
  final : ∀ request, Statement.bind after request = ⟨after, Record.empty⟩

variable {s rest : List Char}

private theorem name_quiet {name : List Char} (named : ∀ c ∈ name, isNameChar c = true) :
    IsQuiet name :=
  fun c member => nameChar_quiet (named c member)

/-- A character that opens nothing and is no colon stood in the statement before. -/
private theorem rewritten_cons {c : Char} (quiet : c ∉ ['\'', '"', '-', '/', ':'])
    (same : rewritten s = c :: rest) : ∃ raw, s = c :: raw ∧ rewritten raw = rest := by
  simp only [List.mem_cons, not_or] at quiet
  obtain ⟨single, double, dash, slash, colon, _⟩ := quiet
  cases s using parts_induction with
  | nil =>
    rw [rewritten_nil] at same
    cases same
  | verbatim s text behind found =>
    have nonempty := verbatim?_ne_nil found
    rw [rewritten_verbatim found] at same
    rw [← verbatim?_append found] at found
    cases text with
    | nil => exact absurd rfl nonempty
    | cons d text =>
      obtain ⟨rfl, _⟩ := List.cons.inj same
      have closed : opens d (text ++ behind).head? = false := by
        simp [opens, single, double, dash, slash]
      rw [List.cons_append, verbatim?_cons_none.mpr closed] at found
      cases found
  | reference name behind named =>
    rw [rewritten_reference named] at same
    exact absurd (List.cons.inj same).1.symm colon
  | other d behind closed unreferenced =>
    rw [rewritten_other closed unreferenced] at same
    obtain ⟨rfl, tail⟩ := List.cons.inj same
    exact ⟨behind, rfl, tail⟩

private theorem rewritten_append {front : List Char} (quiet : IsQuiet front)
    (same : rewritten s = front ++ rest) : ∃ raw, s = front ++ raw ∧ rewritten raw = rest := by
  induction front generalizing s with
  | nil => exact ⟨s, rfl, same⟩
  | cons c front ih =>
    obtain ⟨first, later⟩ := List.forall_mem_cons.mp quiet
    obtain ⟨behind, rfl, tail⟩ := rewritten_cons first same
    obtain ⟨raw, rfl, ended⟩ := ih later tail
    exact ⟨raw, rfl, ended⟩

/-- No reference comes about by rewriting those behind a brace. -/
theorem reference?_rewritten (unreferenced : Part.reference? s = none) :
    Part.reference? (rewritten s) = none := by
  cases found : Part.reference? (rewritten s) with
  | none => rfl
  | some cut =>
    obtain ⟨part, rest⟩ := cut
    obtain ⟨name, named, same, rfl⟩ := reference?_eq_some.mp found
    have quiet : IsQuiet (name ++ ['\x7d']) := isQuiet_append.mpr ⟨name_quiet named.2, by decide⟩
    rw [List.append_cons] at same
    obtain ⟨raw, rfl, _⟩ := rewritten_append quiet same
    rw [← List.append_cons, reference?_eq_some.mpr ⟨name, named, rfl, rfl⟩] at unreferenced
    cases unreferenced

private theorem placeholder_quiet {name : List Char} (named : IsName name) :
    ∀ c ∈ ':' :: name, c ∉ activeChars :=
  List.forall_mem_cons.mpr ⟨by decide, fun c member => nameChar_passive (named.2 c member)⟩

/-- **The rewritten text is read part for part like the statement.** -/
theorem parts_rewritten (s : List Char) : parts (rewritten s) = (parts s).flatMap settledPart := by
  induction s using parts_induction with
  | nil => simp [rewritten_nil]
  | verbatim s text rest found ih =>
    have ended : rest = [] → rewritten rest = [] := by
      rintro rfl
      exact rewritten_nil
    rw [rewritten_verbatim found, parts_verbatim (verbatim?_tail found ended), parts_verbatim found, ih]
    rfl
  | reference name rest named ih =>
    rw [rewritten_reference named, ← List.cons_append, parts_quiet (placeholder_quiet named),
      parts_reference named, ih]
    rfl
  | other c rest closed unreferenced ih =>
    rw [rewritten_other closed unreferenced,
      parts_other (opens_rewritten closed) fun brace => reference?_rewritten (unreferenced brace),
      parts_other closed unreferenced, ih]
    rfl

theorem rewritten_rewritten (s : List Char) : rewritten (rewritten s) = rewritten s := by
  have settled (part : Part) : (settledPart part).flatMap Part.rewritten = part.rewritten := by
    cases part with
    | verbatim _ | other _ => simp [settledPart]
    | reference name => simp [settledPart, Part.rewritten, List.flatMap_map]
  rw [rewritten, parts_rewritten, List.flatMap_assoc, funext settled, ← rewritten]

private theorem others_filterMap {α : Type} {f : Part → Option α} (silent : ∀ c, f (.other c) = none)
    (chars : List Char) : (chars.map .other).filterMap f = [] := by
  rw [List.filterMap_map]
  exact List.filterMap_eq_nil_iff.mpr fun c _ => silent c

theorem references_rewritten (s : List Char) :
    (parts (rewritten s)).filterMap referenceName? = [] := by
  rw [parts_rewritten, List.filterMap_flatMap, List.flatMap_eq_nil_iff]
  intro part _
  cases part with
  | verbatim _ | other _ => rfl
  | reference name => exact others_filterMap (fun _ => rfl) (':' :: name)

/-- Characters that nothing begins with do not count for the literals and comments behind them. -/
theorem verbatims_quiet {front : List Char} (quiet : IsQuiet front) (s : List Char) :
    verbatims (front ++ s) = verbatims s := by
  rw [verbatims, pieces_quiet quiet, List.filterMap_append, verbatimTexts_others, List.nil_append,
    ← verbatims]

private theorem verbatims_colon (s : List Char) : verbatims (':' :: s) = verbatims s := by
  -- A colon may be read with the one behind it, or with a name, but with nothing that is kept.
  induction s with
  | nil =>
    rw [verbatims, pieces_loneColon rfl]
    rfl
  | cons c s ih =>
    by_cases double : c = ':'
    · subst double
      rw [ih, verbatims, pieces_doubleColon]
      rfl
    · cases start : isNameStart c with
      | false =>
        rw [verbatims, pieces_colon double start]
        rfl
      | true =>
        have named : ∀ d ∈ c :: s.takeWhile isNameChar, isNameChar d = true :=
          List.forall_mem_cons.mpr
            ⟨isNameChar_of_start start, fun d member => List.mem_takeWhile_imp member⟩
        have cut := verbatims_quiet (name_quiet named) (s.dropWhile isNameChar)
        rw [List.cons_append, List.takeWhile_append_dropWhile] at cut
        rw [cut, verbatims, pieces_placeholder start]
        rfl

/-- Where no literal or comment begins, they are looked for from the next character on. -/
theorem verbatims_cons {c : Char} (closed : opens c s.head? = false) :
    verbatims (c :: s) = verbatims s := by
  by_cases colon : c = ':'
  · subst colon
    exact verbatims_colon s
  · rw [verbatims, pieces_other closed colon]
    rfl

/-- Looking for references finds the same literals and comments as looking for placeholders. -/
theorem verbatims_eq_parts (s : List Char) : verbatims s = (parts s).filterMap spannedText? := by
  induction s using parts_induction with
  | nil => simp [verbatims]
  | verbatim s text rest found ih =>
    rw [verbatims, pieces_verbatim found, parts_verbatim found]
    exact congrArg (text :: ·) ih
  | reference name rest named ih =>
    have quiet : IsQuiet (['\x7b'] ++ (name ++ ['\x7d'])) :=
      isQuiet_append.mpr ⟨by decide, isQuiet_append.mpr ⟨name_quiet named.2, by decide⟩⟩
    have cut := verbatims_quiet quiet rest
    rw [List.append_assoc, List.append_assoc, List.singleton_append, List.singleton_append] at cut
    rw [cut, parts_reference named]
    exact ih
  | other c rest closed unreferenced ih =>
    rw [verbatims_cons closed, parts_other closed unreferenced]
    exact ih

theorem verbatims_rewritten (s : List Char) : verbatims (rewritten s) = verbatims s := by
  rw [verbatims_eq_parts, verbatims_eq_parts, parts_rewritten]
  induction parts s with
  | nil => rfl
  | cons part rest ih =>
    rw [List.flatMap_cons, List.filterMap_append, ih]
    cases part with
    | verbatim _ | other _ => rfl
    | reference name =>
      have plain : (settledPart (.reference name)).filterMap spannedText? = [] :=
        others_filterMap (fun _ => rfl) (':' :: name)
      rw [plain]
      rfl

/-- A statement without references is bound as it is, to nothing. -/
theorem bind_unreferenced {sql : String} (same : rewritten sql.toList = sql.toList)
    (none : references sql = []) (request : Request) :
    Statement.bind sql request = ⟨sql, Record.empty⟩ := by
  have text : rewriteReferences sql = sql := by
    rw [rewriteReferences, ← rewritten, same, String.ofList_toList]
  have names : referencedNames sql = [] := by
    rw [referencedNames, none]
    rfl
  rw [Statement.bind, text, names]
  rfl

/-- **References are rewritten once and for all.** Whatever braces, quotes, dashes and slashes are about
them, rewriting opens and closes no literal or comment and makes no new reference. -/
theorem rewriting_settles (sql : String) (request : Request) :
    Rewrites sql (Statement.bind sql request).text := by
  have text : (Statement.bind sql request).text = String.ofList (rewritten sql.toList) := rfl
  rw [text]
  refine ⟨?_, ?_, bind_unreferenced ?_ ?_⟩
  · rw [String.toList_ofList, verbatims_rewritten]
  · rw [String.toList_ofList, parts_rewritten]
  · rw [String.toList_ofList, rewritten_rewritten]
  · rw [references_eq, String.toList_ofList, references_rewritten]

example : (Statement.bind "\x7b\x7ba\x7d\x7d \x7ba\x7bb\x7d -\x7ba\x7d-'\x7ba\x7d'/\x7bb\x7d*" .empty).text =
    "\x7b:a\x7d \x7ba:b -:a-'\x7ba\x7d'/:b*" := by
  decide +kernel

end NamedSql.ReferenceRewriting
