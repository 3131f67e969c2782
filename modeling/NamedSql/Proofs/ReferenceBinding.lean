import NamedSql.Proofs.ParameterNames
import NamedSql.Proofs.StatementParts
import NamedSql.Proofs.StatementPieces

/-! A reference is rewritten to a placeholder as text, and the text is read once more when it is
expanded. The second reading finds the reference again exactly where its name begins like one and no
name character comes right behind its closing brace. -/
namespace NamedSql.ReferenceBinding
open Sql VerbatimBoundaries StatementParts StatementPieces ParameterNames

/-- The name characters that parts begin with, outside literals, comments and references. -/
def continuation : List Part → List Char
  | .other c :: rest => if isNameChar c then c :: continuation rest else []
  | _ => []

/-- What parts are read as when they have been rewritten and are read again. -/
def reread : List Part → List Piece
  | [] => []
  | .verbatim text :: rest => .verbatim text :: reread rest
  | .other c :: rest => .other c :: reread rest
  | .reference name :: rest =>
    if name.head?.any isNameStart then
      .placeholder (name ++ continuation rest) :: (reread rest).drop (continuation rest).length
    else .other ':' :: name.map .other ++ reread rest

/-- A statement with its references rewritten. -/
def rewritten (s : List Char) : List Char := (parts s).flatMap Part.rewritten

/-- A statement without its literals and comments. -/
def outside (s : List Char) : List Char :=
  (parts s).flatMap fun
    | .verbatim _ => []
    | part => part.text

theorem rewritten_nil : rewritten [] = [] := by simp [rewritten]

theorem rewritten_verbatim {s text rest : List Char}
    (found : verbatim? s = some (text, rest)) : rewritten s = text ++ rewritten rest := by
  rw [rewritten, parts_verbatim found]
  rfl

theorem rewritten_reference {name rest : List Char} (named : IsName name) :
    rewritten ('\x7b' :: (name ++ '\x7d' :: rest)) = ':' :: (name ++ rewritten rest) := by
  rw [rewritten, parts_reference named]
  rfl

theorem rewritten_other {c : Char} {s : List Char} (closed : opens c s.head? = false)
    (unreferenced : c = '\x7b' → Part.reference? s = none) :
    rewritten (c :: s) = c :: rewritten s := by
  rw [rewritten, parts_other closed unreferenced]
  rfl

/-- Rewriting changes the first character of a statement at most to a colon. -/
private theorem head?_rewritten (s : List Char) :
    (rewritten s).head? = s.head? ∨ (rewritten s).head? = some ':' := by
  induction s using parts_induction with
  | nil => simp [rewritten_nil]
  | verbatim s text rest found _ =>
    have nonempty := verbatim?_ne_nil found
    rw [rewritten_verbatim found, ← verbatim?_append found]
    cases text with
    | nil => exact absurd rfl nonempty
    | cons c text => exact Or.inl rfl
  | reference name rest named _ =>
    rw [rewritten_reference named]
    exact Or.inr rfl
  | other c rest closed unreferenced _ =>
    rw [rewritten_other closed unreferenced]
    exact Or.inl rfl

theorem opens_rewritten {c : Char} {s : List Char} (closed : opens c s.head? = false) :
    opens c (rewritten s).head? = false := by
  rcases head?_rewritten s with same | colon
  · rw [same]
    exact closed
  · rw [colon]
    simp only [opens, Bool.or_eq_false_iff] at closed ⊢
    exact ⟨⟨closed.1.1, by simp⟩, by simp⟩

/-- Name characters run on in the rewritten text as far as they do in the parts. -/
private theorem takeWhile_rewritten (s : List Char) :
    (rewritten s).takeWhile isNameChar = continuation (parts s) := by
  induction s using parts_induction with
  | nil => simp [rewritten_nil, continuation]
  | verbatim s text rest found _ =>
    have nonempty := verbatim?_ne_nil found
    rw [rewritten_verbatim found, parts_verbatim found]
    rw [← verbatim?_append found] at found
    cases text with
    | nil => exact absurd rfl nonempty
    | cons c text =>
      have unnamed : ¬isNameChar c = true := fun named => by
        rw [List.cons_append, verbatim?_cons_none.mpr (nameChar_plain named _).1] at found
        cases found
      rw [List.cons_append, List.takeWhile_cons_of_neg unnamed]
      rfl
  | reference name rest named _ =>
    rw [rewritten_reference named, parts_reference named]
    rfl
  | other c rest closed unreferenced ih =>
    rw [rewritten_other closed unreferenced, parts_other closed unreferenced, List.takeWhile_cons, ih]
    rfl

/-- Reading the rewritten text. -/
theorem pieces_rewritten {s : List Char} (plain : ':' ∉ outside s) :
    pieces (rewritten s) = reread (parts s) := by
  induction s using parts_induction with
  | nil => simp [rewritten_nil, reread]
  | verbatim s text rest found ih =>
    have behind : rest = [] → rewritten rest = [] := by
      rintro rfl
      exact rewritten_nil
    rw [outside, parts_verbatim found] at plain
    rw [rewritten_verbatim found, pieces_verbatim (verbatim?_tail found behind), parts_verbatim found,
      ih plain]
    rfl
  | reference name rest named ih =>
    rw [outside, parts_reference named, List.flatMap_cons, List.mem_append, not_or] at plain
    rw [rewritten_reference named, parts_reference named, reread, ← ih plain.2,
      ← takeWhile_rewritten]
    obtain ⟨nonempty, chars⟩ := named
    cases name with
    | nil => exact absurd rfl nonempty
    | cons c name =>
      simp only [List.forall_mem_cons] at chars
      obtain ⟨first, later⟩ := chars
      cases start : isNameStart c with
      | true =>
        rw [List.cons_append, pieces_placeholder start, List.takeWhile_append_of_pos later,
          List.dropWhile_append_of_pos later, pieces_dropWhile]
        simp [start]
      | false =>
        have named : ∀ d ∈ c :: name, isNameChar d = true := List.forall_mem_cons.mpr ⟨first, later⟩
        rw [List.cons_append, pieces_colon (nameChar_plain first none).2 start, ← List.cons_append,
          pieces_name named]
        simp [start]
  | other c rest closed unreferenced ih =>
    rw [outside, parts_other closed unreferenced, List.flatMap_cons, List.mem_append, not_or] at plain
    have different : c ≠ ':' := by
      rintro rfl
      exact plain.1 (List.mem_singleton_self _)
    rw [rewritten_other closed unreferenced, pieces_other (opens_rewritten closed) different,
      parts_other closed unreferenced, ih plain.2]
    rfl

/-- Whether every reference among parts has a name that begins like one and is not continued by the
part behind it. -/
def standAlone : List Part → Bool
  | [] => true
  | .reference name :: rest =>
    name.head?.any isNameStart && (continuation rest).isEmpty && standAlone rest
  | _ :: rest => standAlone rest

/-- A part as the piece that it should be read as. -/
def asPiece : Part → Piece
  | .verbatim text => .verbatim text
  | .reference name => .placeholder name
  | .other c => .other c

theorem reread_standAlone {parts : List Part} (alone : standAlone parts = true) :
    reread parts = parts.map asPiece := by
  induction parts with
  | nil => rfl
  | cons part rest ih =>
    cases part with
    | verbatim _ | other _ => simp [reread, asPiece, ih alone]
    | reference name =>
      simp only [standAlone, Bool.and_eq_true, List.isEmpty_iff] at alone
      obtain ⟨⟨start, ended⟩, later⟩ := alone
      simp [reread, asPiece, start, ended, ih later]

/-- Name characters behind a reference are pieces of their own in the text behind it. -/
private theorem reread_continuation (parts : List Part) :
    reread parts = (continuation parts).map .other ++ (reread parts).drop (continuation parts).length := by
  induction parts with
  | nil => rfl
  | cons part rest ih =>
    cases part with
    | verbatim _ | reference _ => rfl
    | other c =>
      rw [continuation]
      split
      · rw [reread, List.map_cons, List.cons_append, List.length_cons, List.drop_succ_cons, ← ih]
      · rfl

/-- The names that are found when a reference and what follows it are read again. -/
private theorem placeholders_reference (name : List Char) (rest : List Part) :
    (reread (.reference name :: rest)).filterMap placeholderName? =
      if name.head?.any isNameStart then
        String.ofList (name ++ continuation rest) :: (reread rest).filterMap placeholderName?
      else (reread rest).filterMap placeholderName? := by
  rw [reread]
  split
  · have dropped := congrArg (List.filterMap placeholderName?) (reread_continuation rest)
    rw [placeholders_others] at dropped
    rw [dropped]
    rfl
  · exact placeholders_others (':' :: name) (reread rest)

private theorem placeholders_length (parts : List Part) :
    ((reread parts).filterMap placeholderName?).length ≤ (parts.filterMap referenceName?).length := by
  induction parts with
  | nil => exact Nat.le_refl 0
  | cons part rest ih =>
    cases part with
    | verbatim _ | other _ => exact ih
    | reference name =>
      rw [placeholders_reference]
      split
      · exact Nat.succ_le_succ ih
      · exact Nat.le_succ_of_le ih

/-- Names are read back in order only where every reference stands alone. -/
theorem standAlone_of_placeholders {parts : List Part}
    (same : (reread parts).filterMap placeholderName? = parts.filterMap referenceName?) :
    standAlone parts = true := by
  induction parts with
  | nil => rfl
  | cons part rest ih =>
    cases part with
    | verbatim _ | other _ => exact ih same
    | reference name =>
      have names : (Part.reference name :: rest).filterMap referenceName? =
          String.ofList name :: rest.filterMap referenceName? := rfl
      rw [placeholders_reference, names] at same
      split at same
      · rename_i start
        obtain ⟨whole, later⟩ := List.cons_eq_cons.mp same
        have ended : continuation rest = [] := by simpa using whole
        simp [standAlone, start, ended, ih later]
      · -- A name that cannot begin a placeholder leaves one placeholder too few.
        have short := placeholders_length rest
        rw [same, List.length_cons] at short
        omega

/-- Parts with the n-th reference written as the n-th placeholder. -/
def positional (placeholder : Nat → String) : Nat → List Part → List Char
  | _, [] => []
  | number, .reference _ :: rest =>
    (placeholder number).toList ++ positional placeholder (number + 1) rest
  | number, part :: rest => part.text ++ positional placeholder number rest

/-- Expanding parts that are read as they should be. -/
theorem expandPieces_parts {params : Params} {value : String → Value} {parts : List Part}
    (bound : ∀ name ∈ parts.filterMap referenceName?, params.get? name = some (value name))
    (placeholder : Nat → String) (number : Nat) :
    expandPieces params (fun n _ => placeholder n) number (parts.map asPiece) =
      .ok (positional placeholder number parts, (parts.filterMap referenceName?).map value) := by
  induction parts generalizing number with
  | nil => rfl
  | cons part rest ih =>
    cases part with
    | verbatim _ | other _ =>
      rw [List.map_cons, asPiece, expandPieces, ih bound]
      rfl
      all_goals rintro _ ⟨⟩
    | reference name =>
      have first := bound (String.ofList name) (List.mem_cons_self ..)
      rw [List.map_cons, asPiece, expandPieces, first, ih fun other member =>
        bound other (List.mem_cons_of_mem _ member)]
      rfl

/-- Whether expanding a statement whose references were bound gives each its own placeholder and its
own value, for every request and however placeholders are written. -/
def EveryReferenceBound (sql : String) : Prop :=
  ∀ (request : Request) (d : Dialect),
    d.expand (Statement.bind sql request).text (Statement.bind sql request).params =
      .ok ⟨String.ofList (positional d.placeholder 1 (parts sql.toList)),
        (references sql).map request.value⟩

private theorem value_ofPair (name text other : String) :
    (Request.ofPairs [(name, text)]).value other = if other = name then .text text else .null := by
  have found : (Request.ofPairs [(name, text)]).get? other =
      if other = name then some (.text text) else none := Record.get?_insert _ _ _ _
  rw [Request.value, found]
  by_cases same : other = name
  · rw [if_pos same, if_pos same]
    rfl
  · rw [if_neg same, if_neg same]

/-- Names that are looked up alike for every request are the same. -/
private theorem names_eq_references {sql : String} {names : List String}
    (same : ∀ request, names.map (Statement.bind sql request).params.get? =
      ((references sql).map request.value).map some) : names = references sql := by
  have lengths : names.length = (references sql).length := by
    simpa using congrArg List.length (same Request.empty)
  refine List.ext_getElem lengths fun index inside inside' => ?_
  -- A request with nothing but the reference's name in it tells that name from every other.
  have looked := congrArg (·[index]?) (same (.ofPairs [((references sql)[index], "")]))
  simp only [List.getElem?_map, List.getElem?_eq_getElem inside, List.getElem?_eq_getElem inside',
    Option.map_some, bind_get?] at looked
  split at looked
  · rw [value_ofPair, value_ofPair, if_pos rfl] at looked
    split at looked
    · assumption
    · cases looked
  · cases looked

/-- **References are bound to their own values exactly where they stand alone.** -/
theorem references_bound_iff_standAlone {sql : String} (plain : ':' ∉ outside sql.toList) :
    EveryReferenceBound sql ↔ standAlone (parts sql.toList) = true := by
  have read : pieces (rewriteReferences sql).toList = reread (parts sql.toList) := by
    rw [rewriteReferences, String.toList_ofList]
    exact pieces_rewritten plain
  constructor
  · intro bound
    apply standAlone_of_placeholders
    rw [← read]
    refine names_eq_references fun request => ?_
    exact expandPieces_values (expand_eq_ok.mp (bound request .sqlite))
  · intro alone request d
    have bound : ∀ name ∈ references sql,
        (Statement.bind sql request).params.get? name = some (request.value name) := by
      intro name member
      rw [bind_get?, if_pos member]
    have expanded := expandPieces_parts bound d.placeholder 1
    rw [← reread_standAlone alone, ← read] at expanded
    rw [expand_eq_ok, String.toList_ofList]
    exact expanded

/-- References beside each other and beside a comment, with colons in a literal and in the comment. -/
def adjacentReferences : String :=
  "SELECT ':x' FROM t WHERE a=\x7ba\x7d\x7b_b2\x7d OR (\x7ba\x7d)--:y"

theorem adjacent_references_bound :
    ':' ∉ outside adjacentReferences.toList ∧ EveryReferenceBound adjacentReferences := by
  have plain : ':' ∉ outside adjacentReferences.toList := by decide +kernel
  exact ⟨plain, (references_bound_iff_standAlone plain).mpr (by decide +kernel)⟩

example : standAlone (parts "SELECT \x7ba\x7db".toList) = false := by decide +kernel

/-- A reference by number. -/
def numberedReference : String := "UPDATE t SET a = \x7b1\x7d"

/-- It is accepted, and left in the text with nothing bound to it. -/
theorem numbered_reference_unbound :
    ':' ∉ outside numberedReference.toList ∧ references numberedReference = ["1"] ∧
      ¬EveryReferenceBound numberedReference := by
  have named : references numberedReference = ["1"] := by decide +kernel
  refine ⟨by decide +kernel, named, fun bound => ?_⟩
  have expanded : Dialect.sqlite.expand (Statement.bind numberedReference .empty).text
      (Statement.bind numberedReference .empty).params = .ok ⟨"UPDATE t SET a = :1", []⟩ := by
    decide +kernel
  rw [bound, named, Except.ok.injEq, Expansion.mk.injEq] at expanded
  exact List.cons_ne_nil _ _ expanded.2

end NamedSql.ReferenceBinding
