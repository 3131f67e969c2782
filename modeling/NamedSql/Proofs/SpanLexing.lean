import NamedSql.Proofs.StatementParts
import NamedSql.Proofs.StatementPieces

/-! Which characters of a statement belong to literals and comments can be told one by one: it is enough to
remember what one is inside of, and to see the next character. A doubled quote then stays inside its
literal, where skipping whole literals ends one and begins the next. Both mark the same characters. -/
namespace NamedSql.SpanLexing
open Sql VerbatimBoundaries StatementParts StatementPieces

variable {c : Char} {s text rest : List Char}

/-- What the next character is inside of. -/
inductive State where
  | plain
  | quoted (quote : Char)
  | line
  | block
  /-- The character belongs to the one before it, and what follows is read in the given state. -/
  | second (later : State)
deriving DecidableEq, Repr

namespace State

/-- The state behind a character, given the one after it. -/
def next : State → Char → Option Char → State
  | plain, c, d =>
    if c = '\'' ∨ c = '"' then quoted c
    else if c = '-' ∧ d = some '-' then second line
    else if c = '/' ∧ d = some '*' then second block
    else plain
  | quoted quote, c, d =>
    if c ≠ quote then quoted quote else if d = some quote then second (quoted quote) else plain
  | line, c, _ => if c = '\n' then plain else line
  | block, c, d => if c = '*' ∧ d = some '/' then second plain else block
  | second later, _, _ => later

end State

/-- Whether each character belongs to a literal or comment. -/
def lexed : State → List Char → List Bool
  | _, [] => []
  | state, c :: s =>
    (state != .plain || state.next c s.head? != .plain) :: lexed (state.next c s.head?) s

/-- One mark for each character of a text. -/
def marked (mark : Bool) (text : List Char) : List Bool := text.map fun _ => mark

/-- The marks of a statement whose literals and comments are skipped as a whole, with one step of a single
character where none begins. -/
def skipped (s : List Char) : List Bool :=
  match _h : verbatim? s with
  | some (text, rest) => marked true text ++ skipped rest
  | none =>
    match s with
    | [] => []
    | _ :: rest => false :: skipped rest
termination_by s.length
decreasing_by
  · exact verbatim?_length _h
  · simp

/-- The marks of a piece of a statement. -/
def pieceMarks : Piece → List Bool
  | .verbatim text => marked true text
  | piece => marked false piece.text

/-- The marks of a part of an operation's statement. -/
def partMarks : Part → List Bool
  | .verbatim text => marked true text
  | part => marked false part.text

theorem lexed_inside {state : State} (inside : state ≠ .plain) (c : Char) (s : List Char) :
    lexed state (c :: s) = true :: lexed (state.next c s.head?) s := by
  simp [lexed, inside]

/-- A character that opens something is inside of it already. -/
theorem lexed_opening {after : State} (opening : State.plain.next c s.head? = after)
    (inside : after ≠ .plain) : lexed .plain (c :: s) = true :: lexed after s := by
  simp [lexed, opening, inside]

theorem lexed_plain (closed : opens c s.head? = false) :
    lexed .plain (c :: s) = false :: lexed .plain s := by
  simp only [opens, Bool.or_eq_false_iff, Bool.and_eq_false_imp, beq_iff_eq,
    beq_eq_false_iff_ne] at closed
  obtain ⟨⟨⟨single, double⟩, dash⟩, slash⟩ := closed
  have stays : State.plain.next c s.head? = .plain := by
    rw [State.next, if_neg (by simp [single, double]), if_neg fun both => dash both.1 both.2,
      if_neg fun both => slash both.1 both.2]
  simp [lexed, stays]

theorem lexed_quote {quote : Char} (kind : quote = '\'' ∨ quote = '"') (s : List Char) :
    lexed .plain (quote :: s) = true :: lexed (.quoted quote) s :=
  lexed_opening (by simp [State.next, kind]) (by simp)

theorem lexed_dashes (s : List Char) :
    lexed .plain ('-' :: '-' :: s) = true :: true :: lexed .line s := rfl

theorem lexed_slash_star (s : List Char) :
    lexed .plain ('/' :: '*' :: s) = true :: true :: lexed .block s := rfl

/-- A literal goes on to its next quote. Where another follows, the literal stays open, and what follows
is inside of it just as if the other had opened it. -/
theorem lexed_quoted {quote : Char} (kind : quote = '\'' ∨ quote = '"') (s : List Char) :
    lexed (.quoted quote) s = marked true (through quote s).1 ++ lexed .plain (through quote s).2 := by
  induction s with
  | nil => rfl
  | cons c s ih =>
    rw [lexed_inside (by simp), through_cons]
    by_cases closing : c = quote
    · subst closing
      rw [if_pos rfl]
      by_cases doubled : s.head? = some c
      · obtain ⟨s, rfl⟩ := List.head?_eq_some_iff.mp doubled
        have paired : (State.quoted c).next c (c :: s).head? = .second (.quoted c) := by
          simp [State.next]
        rw [paired, lexed_inside (by simp), lexed_quote kind]
        rfl
      · have left : (State.quoted c).next c s.head? = .plain := by simp [State.next, doubled]
        rw [left]
        rfl
    · have stays : (State.quoted quote).next c s.head? = .quoted quote := by
        simp [State.next, closing]
      rw [if_neg closing, stays, ih]
      rfl

theorem lexed_line (s : List Char) :
    lexed .line s = marked true (through '\n' s).1 ++ lexed .plain (through '\n' s).2 := by
  induction s with
  | nil => rfl
  | cons c s ih =>
    rw [lexed_inside (by simp), through_cons]
    by_cases closing : c = '\n'
    · subst closing
      rfl
    · have stays : State.line.next c s.head? = .line := by simp [State.next, closing]
      rw [if_neg closing, stays, ih]
      rfl

theorem lexed_block (s : List Char) :
    lexed .block s = marked true (throughClose s).1 ++ lexed .plain (throughClose s).2 := by
  fun_induction throughClose s with
  | case1 => rfl
  | case2 => rfl
  | case3 c s passing ih =>
    have stays : State.block.next c s.head? = .block := by
      rw [State.next, if_neg]
      rintro ⟨rfl, slash⟩
      obtain ⟨rest, rfl⟩ := List.head?_eq_some_iff.mp slash
      exact passing rest rfl rfl
    rw [lexed_inside (by simp), stays, ih]
    rfl

/-- Character by character, a literal or comment ends where it does as a whole. -/
theorem lexed_verbatim (found : verbatim? s = some (text, rest)) :
    lexed .plain s = marked true text ++ lexed .plain rest := by
  unfold verbatim? at found
  split at found
  · cases found
    rw [lexed_quote (Or.inl rfl), lexed_quoted (Or.inl rfl)]
    rfl
  · cases found
    rw [lexed_quote (Or.inr rfl), lexed_quoted (Or.inr rfl)]
    rfl
  · cases found
    rw [lexed_dashes, lexed_line]
    rfl
  · cases found
    rw [lexed_slash_star, lexed_block]
    rfl
  · cases found

/-- Characters that open nothing, whatever follows them, are plain. -/
theorem lexed_unopened {front : List Char} (quiet : ∀ c ∈ front, c ∉ ['\'', '"', '-', '/'])
    (s : List Char) : lexed .plain (front ++ s) = marked false front ++ lexed .plain s := by
  induction front with
  | nil => rfl
  | cons c front ih =>
    obtain ⟨first, later⟩ := List.forall_mem_cons.mp quiet
    simp only [List.mem_cons, not_or] at first
    have closed : opens c (front ++ s).head? = false := by simp [opens, first]
    rw [List.cons_append, lexed_plain closed, ih later]
    rfl

private theorem name_unopened {name : List Char} (named : ∀ c ∈ name, isNameChar c = true) :
    ∀ c ∈ name, c ∉ ['\'', '"', '-', '/'] := by
  intro c member opening
  exact nameChar_quiet (named c member) (List.mem_append_left [':'] opening)

theorem skipped_lexed (s : List Char) : skipped s = lexed .plain s := by
  fun_induction skipped s with
  | case1 s text rest found ih => rw [ih, lexed_verbatim found]
  | case2 => rfl
  | case3 c rest unopened ih => rw [ih, lexed_plain (verbatim?_cons_none.mp unopened)]

/-- Looking for placeholders marks the same characters. -/
theorem pieces_lexed (s : List Char) : (pieces s).flatMap pieceMarks = lexed .plain s := by
  induction s using pieces_induction with
  | nil => simp [lexed]
  | verbatim s text rest found ih =>
    rw [pieces_verbatim found, List.flatMap_cons, ih, lexed_verbatim found]
    rfl
  | doubleColon rest ih =>
    rw [pieces_doubleColon, List.flatMap_cons, ih]
    rfl
  | placeholder c name rest start named stop ih =>
    have quiet : ∀ d ∈ ':' :: c :: name, d ∉ ['\'', '"', '-', '/'] :=
      List.forall_mem_cons.mpr ⟨by decide, name_unopened
        (List.forall_mem_cons.mpr ⟨isNameChar_of_start start, named⟩)⟩
    rw [pieces_named start named stop, List.flatMap_cons, ih]
    exact (lexed_unopened quiet rest).symm
  | colon rest lone ih =>
    rw [pieces_loneColon lone, List.flatMap_cons, ih]
    rfl
  | other c rest closed plain ih =>
    rw [pieces_other closed plain, List.flatMap_cons, ih, lexed_plain closed]
    rfl

/-- Looking for references marks the same characters. -/
theorem parts_lexed (s : List Char) : (parts s).flatMap partMarks = lexed .plain s := by
  induction s using parts_induction with
  | nil => simp [lexed]
  | verbatim s text rest found ih =>
    rw [parts_verbatim found, List.flatMap_cons, ih, lexed_verbatim found]
    rfl
  | reference name rest named ih =>
    have quiet : ∀ c ∈ '\x7b' :: name ++ ['\x7d'], c ∉ ['\'', '"', '-', '/'] := by
      refine List.forall_mem_cons.mpr ⟨by decide, fun c member => ?_⟩
      rcases List.mem_append.mp member with inside | brace
      · exact name_unopened named.2 c inside
      · obtain rfl := List.mem_singleton.mp brace
        decide
    have cut := lexed_unopened quiet rest
    rw [List.append_assoc] at cut
    rw [parts_reference named, List.flatMap_cons, ih]
    exact cut.symm
  | other c rest closed unreferenced ih =>
    rw [parts_other closed unreferenced, List.flatMap_cons, ih, lexed_plain closed]
    rfl

theorem lexed_length (state : State) (s : List Char) : (lexed state s).length = s.length := by
  induction s generalizing state with
  | nil => rfl
  | cons c s ih => rw [lexed, List.length_cons, ih, List.length_cons]

/-- **Skipping agrees with lexing.** Of every statement the same characters are marked as literal or
comment, one mark for each character, whether they are lexed one by one or the literals and comments are
skipped as a whole: on their own, among placeholders, or among references. -/
theorem skipping_agrees_with_lexing (sql : String) :
    (lexed .plain sql.toList).length = sql.toList.length ∧
      skipped sql.toList = lexed .plain sql.toList ∧
      (pieces sql.toList).flatMap pieceMarks = lexed .plain sql.toList ∧
      (parts sql.toList).flatMap partMarks = lexed .plain sql.toList :=
  ⟨lexed_length .plain sql.toList, skipped_lexed sql.toList, pieces_lexed sql.toList,
    parts_lexed sql.toList⟩

example : lexed .plain "a'b''c'-/*/".toList =
    [false, true, true, true, true, true, true, false, true, true, true] := by
  decide

end NamedSql.SpanLexing
