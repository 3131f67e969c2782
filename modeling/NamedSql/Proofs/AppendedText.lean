import NamedSql.Sql.Dialect
import NamedSql.Proofs.StatementPieces

/-! What becomes of a statement's pieces when text is put behind it. A literal or comment that is
still open goes on into the text, as far as it takes to close it; every other piece stays as it was,
if the text begins with a character that continues nothing. -/
namespace NamedSql.AppendedText
open Sql VerbatimBoundaries StatementPieces

/-- Whether a literal or comment is closed by its own closing characters. -/
def isClosed : List Char → Bool
  | '\'' :: inside => decide ('\'' ∈ inside)
  | '"' :: inside => decide ('"' ∈ inside)
  | '-' :: '-' :: inside => decide ('\n' ∈ inside)
  | '/' :: '*' :: inside => Text.contains ['*', '/'] inside
  | _ => false

/-- Cuts the text behind an open literal or comment where it is closed. -/
def untilClosed : List Char → List Char → List Char × List Char
  | '\'' :: _, behind => through '\'' behind
  | '"' :: _, behind => through '"' behind
  | '-' :: _, behind => through '\n' behind
  | _, behind => throughClose behind

theorem untilClosed_append (text behind : List Char) :
    (untilClosed text behind).1 ++ (untilClosed text behind).2 = behind := by
  unfold untilClosed
  split
  · exact through_append _ behind
  · exact through_append _ behind
  · exact through_append _ behind
  · exact throughClose_append behind

/-- Cuts the text behind a literal or comment into what belongs to it and what does not. -/
def takenBy (text behind : List Char) : List Char × List Char :=
  if isClosed text then ([], behind) else untilClosed text behind

theorem takenBy_append (text behind : List Char) :
    (takenBy text behind).1 ++ (takenBy text behind).2 = behind := by
  unfold takenBy
  split
  · rfl
  · exact untilClosed_append text behind

/-- The pieces of a statement with text behind it, given the statement's own. -/
def continued (behind : List Char) : List Piece → List Piece
  | [] => pieces behind
  | [.verbatim text] =>
    .verbatim (text ++ (takenBy text behind).1) :: pieces (takenBy text behind).2
  | piece :: rest => piece :: continued behind rest

/-- Whether a character continues nothing that stands before it: no name, no pair of colons, and
nothing that opens or closes a comment. -/
def startsAfresh (next : Option Char) : Bool :=
  !next.any fun c => isNameChar c || decide (c ∈ [':', '-', '*', '/'])

private theorem through_past {c : Char} {s : List Char} (closed : c ∈ s) (behind : List Char) :
    through c (s ++ behind) = ((through c s).1, (through c s).2 ++ behind) := by
  induction s with
  | nil => cases closed
  | cons d s ih =>
    rw [List.cons_append, through_cons, through_cons]
    split
    · rfl
    · rename_i different
      have later : c ∈ s := (List.mem_cons.mp closed).resolve_left (Ne.symm different)
      rw [ih later]

/-- A literal or line comment that is all of a text, with other text behind it. -/
private theorem through_behind {c : Char} {s : List Char} (whole : through c s = (s, []))
    (behind : List Char) :
    let cut := if c ∈ s then ([], behind) else through c behind
    through c (s ++ behind) = (s ++ cut.1, cut.2) := by
  intro cut
  by_cases closed : c ∈ s
  · simp only [cut, closed, ↓reduceIte]
    rw [through_past closed, whole, List.append_nil, List.nil_append]
  · simp only [cut, closed, ↓reduceIte]
    exact through_of_absent closed behind

theorem closes_cons {c : Char} {s : List Char} :
    Text.contains ['*', '/'] (c :: s) = true ↔
      (c = '*' ∧ s.head? = some '/') ∨ Text.contains ['*', '/'] s = true := by
  rw [Text.contains, Bool.or_eq_true]
  refine or_congr ?_ Iff.rfl
  cases s with
  | nil => simp [List.isPrefixOf]
  | cons d s => simp [List.isPrefixOf, @eq_comm _ '*', @eq_comm _ '/']

private theorem throughClose_past {s : List Char} (closed : Text.contains ['*', '/'] s = true)
    (behind : List Char) :
    throughClose (s ++ behind) = ((throughClose s).1, (throughClose s).2 ++ behind) := by
  fun_induction throughClose s with
  | case1 => cases closed
  | case2 s => rfl
  | case3 c s passing ih =>
    have open_ : ¬(c = '*' ∧ s.head? = some '/') := by
      rintro ⟨rfl, slash⟩
      obtain ⟨rest, rfl⟩ := List.head?_eq_some_iff.mp slash
      exact passing rest rfl rfl
    have later := (closes_cons.mp closed).resolve_left open_
    have first : (s ++ behind).head? = s.head? := by
      cases s with
      | nil => cases later
      | cons d s => rfl
    rw [List.cons_append, throughClose_cons (by rwa [first]), ih later]

private theorem throughClose_open {s behind : List Char}
    (open_ : ¬Text.contains ['*', '/'] s = true) (slash : behind.head? ≠ some '/') :
    throughClose (s ++ behind) =
      (s ++ (throughClose behind).1, (throughClose behind).2) := by
  induction s with
  | nil => rfl
  | cons c s ih =>
    rw [closes_cons, not_or] at open_
    have first : ¬(c = '*' ∧ (s ++ behind).head? = some '/') := by
      cases s with
      | nil => exact fun both => slash both.2
      | cons d s => exact open_.1
    rw [List.cons_append, throughClose_cons first, ih open_.2]
    rfl

/-- So does a block comment, whose closing characters are not divided. -/
private theorem throughClose_behind {s : List Char} (whole : throughClose s = (s, []))
    {behind : List Char} (slash : behind.head? ≠ some '/') :
    let cut := if Text.contains ['*', '/'] s then ([], behind) else throughClose behind
    throughClose (s ++ behind) = (s ++ cut.1, cut.2) := by
  intro cut
  by_cases closed : Text.contains ['*', '/'] s = true
  · simp only [cut, closed, ↓reduceIte]
    rw [throughClose_past closed, whole, List.append_nil, List.nil_append]
  · simp only [cut, closed]
    exact throughClose_open closed slash

/-- A literal or comment with text behind it, of which it takes what it needs to be closed. -/
theorem verbatim?_append_behind {text behind : List Char} (found : verbatim? text = some (text, []))
    (slash : behind.head? ≠ some '/') :
    verbatim? (text ++ behind) =
      some (text ++ (takenBy text behind).1, (takenBy text behind).2) := by
  unfold verbatim? at found
  split at found
  case h_5 => cases found
  all_goals simp only [Option.some.injEq, Prod.mk.injEq, List.cons.injEq, true_and] at found
  case h_4 =>
    simp [verbatim?, throughClose_behind (Prod.ext found.1 found.2) slash, takenBy, isClosed,
      untilClosed]
  all_goals
    simp [verbatim?, through_behind (Prod.ext found.1 found.2), takenBy, isClosed, untilClosed]

theorem startsAfresh_iff {next : Option Char} : startsAfresh next = true ↔
    next.any isNameChar = false ∧ ∀ c ∈ [':', '-', '*', '/'], next ≠ some c := by
  cases next with
  | none => simp [startsAfresh]
  | some c => simp [startsAfresh]

private theorem opens_append {c : Char} {s behind : List Char} (closed : opens c s.head? = false)
    (fresh : startsAfresh behind.head? = true) : opens c (s ++ behind).head? = false := by
  cases s with
  | cons d s => exact closed
  | nil =>
    have other := (startsAfresh_iff.mp fresh).2
    have dash := other '-' (by simp)
    have star := other '*' (by simp)
    simp_all [opens]

private theorem isLoneColon_append {s behind : List Char} (lone : isLoneColon s.head? = true)
    (fresh : startsAfresh behind.head? = true) : isLoneColon (s ++ behind).head? = true := by
  cases s with
  | cons d s => exact lone
  | nil =>
    obtain ⟨unnamed, other⟩ := startsAfresh_iff.mp fresh
    cases behind with
    | nil => rfl
    | cons d behind =>
      have start : isNameStart d = false := by
        rw [← Bool.not_eq_true]
        intro start
        rw [List.head?_cons, Option.any_some, isNameChar_of_start start] at unnamed
        cases unnamed
      have colon : d ≠ ':' := fun same => other ':' (by simp) (by rw [same]; rfl)
      simp [isLoneColon, start, colon]

theorem continued_cons {piece : Piece} {rest : List Piece} (behind : List Char)
    (more : rest ≠ [] ∨ ∀ text, piece ≠ .verbatim text) :
    continued behind (piece :: rest) = piece :: continued behind rest := by
  rw [continued]
  rintro text rfl rfl
  rcases more with nonempty | plain
  · exact nonempty rfl
  · exact plain text rfl

/-- **Text put behind a statement.** Only a literal or comment that is still open goes on into it. -/
theorem pieces_append (s : List Char) {behind : List Char}
    (fresh : startsAfresh behind.head? = true) :
    pieces (s ++ behind) = continued behind (pieces s) := by
  obtain ⟨unnamed, other⟩ := startsAfresh_iff.mp fresh
  induction s using pieces_induction with
  | nil => simp [continued]
  | verbatim s text rest found ih =>
    have whole := verbatim?_append found
    rw [pieces_verbatim found, ← whole, List.append_assoc]
    -- A literal that text of the statement follows is closed, and takes nothing more.
    cases rest with
    | nil =>
      rw [List.append_nil] at whole
      rw [← whole] at found
      have cut := verbatim?_append_behind found (other '/' (by simp))
      rw [List.nil_append, pieces_verbatim cut, pieces_nil, continued]
    | cons c rest =>
      have cut : verbatim? (text ++ (c :: rest ++ behind)) = some (text, c :: rest ++ behind) :=
        verbatim?_tail found (by rintro ⟨⟩)
      have nonempty : pieces (c :: rest) ≠ [] := by
        intro empty
        have text := pieces_text (c :: rest)
        rw [empty] at text
        cases text
      rw [pieces_verbatim cut, ih, continued_cons behind (Or.inl nonempty)]
  | doubleColon rest ih =>
    rw [List.cons_append, List.cons_append, pieces_doubleColon, pieces_doubleColon, ih,
      continued_cons behind (Or.inr (by rintro _ ⟨⟩))]
  | placeholder c name rest start named stop ih =>
    have still : (rest ++ behind).head?.any isNameChar = false := by
      cases rest with
      | nil => exact unnamed
      | cons d rest => exact stop
    rw [List.cons_append, List.cons_append, List.append_assoc, pieces_named start named still,
      pieces_named start named stop, ih, continued_cons behind (Or.inr (by rintro _ ⟨⟩))]
  | colon rest lone ih =>
    rw [List.cons_append, pieces_loneColon (isLoneColon_append lone fresh), pieces_loneColon lone, ih,
      continued_cons behind (Or.inr (by rintro _ ⟨⟩))]
  | other c rest closed plain ih =>
    rw [List.cons_append, pieces_other (opens_append closed fresh) plain, pieces_other closed plain, ih,
      continued_cons behind (Or.inr (by rintro _ ⟨⟩))]

end NamedSql.AppendedText
