import Mathlib.Data.List.DropRight
import NamedSql.Proofs.AppendedText

/-! A query is counted and paged by text around it. The text behind the query is put where it cannot
become part of the query's last literal or comment: a line comment at the end is closed by a line
break of its own, and whatever else the query has been closing is closed already. -/
namespace NamedSql.AppendedClauses
open Sql VerbatimBoundaries StatementPieces AppendedText

private theorem nameChar_range {c : Char} (named : isNameChar c = true) :
    48 ≤ c.toNat ∧ c.toNat ≤ 122 := by
  have upper : c.isUpper = decide (65 ≤ c.toNat ∧ c.toNat ≤ 90) := rfl
  have lower : c.isLower = (decide (97 ≤ c.toNat) && decide (c.toNat ≤ 122)) := rfl
  have digit : c.isDigit = (decide (48 ≤ c.toNat) && decide (c.toNat ≤ 57)) := rfl
  have alphanum : c.isAlphanum = ((c.isUpper || c.isLower) || c.isDigit) := rfl
  rw [isNameChar, alphanum, upper, lower, digit] at named
  simp only [Bool.or_eq_true, Bool.and_eq_true, decide_eq_true_eq] at named
  rcases named with ((upper | lower) | digit) | rfl
  · omega
  · omega
  · omega
  · decide

/-- A blank is no name character and opens, closes and marks nothing. -/
theorem blank_passive {c : Char} (blank : Text.isBlank c = true) :
    isNameChar c = false ∧ c ∉ ['\'', '"', '-', '/', ':', '*'] := by
  constructor
  · rw [← Bool.not_eq_true]
    intro named
    have range := nameChar_range named
    simp only [Text.isBlank, Bool.or_eq_true, Bool.and_eq_true, decide_eq_true_eq, beq_iff_eq] at blank
    omega
  · intro active
    have visible : ∀ d ∈ ['\'', '"', '-', '/', ':', '*'], Text.isBlank d = false := by
      simp [Text.isBlank]
    rw [visible c active] at blank
    cases blank

/-- A text is its trimmed part and blanks. -/
theorem trimEnd_append (s : List Char) :
    ∃ blanks, s = Text.trimEnd s ++ blanks ∧ ∀ c ∈ blanks, Text.isBlank c = true :=
  ⟨s.rtakeWhile Text.isBlank, List.rdropWhile_append_rtakeWhile.symm,
    fun _ member => List.mem_rtakeWhile_imp member⟩

theorem pieces_blanks {blanks : List Char} (blank : ∀ c ∈ blanks, Text.isBlank c = true)
    (rest : List Char) : pieces (blanks ++ rest) = blanks.map .other ++ pieces rest := by
  apply pieces_quiet
  intro c member active
  exact (blank_passive (blank c member)).2 (by simp only [List.mem_cons] at active ⊢; tauto)

theorem startsAfresh_blanks {blanks : List Char} (blank : ∀ c ∈ blanks, Text.isBlank c = true)
    (rest : List Char) (fresh : blanks = [] → startsAfresh rest.head? = true) :
    startsAfresh (blanks ++ rest).head? = true := by
  cases blanks with
  | nil => exact fresh rfl
  | cons c blanks =>
    obtain ⟨unnamed, passive⟩ := blank_passive (blank c (List.mem_cons_self ..))
    simp only [List.mem_cons, not_or] at passive
    simp [startsAfresh, unnamed, passive]

/-- A number is written with digits, and with a dash before them if it is negative. -/
theorem numeral_toList (n : Int) : ∃ sign digit more, (toString n).toList = sign ++ digit :: more ∧
    (sign = [] ∨ sign = ['-']) ∧ ∀ c ∈ digit :: more, c.isDigit = true := by
  have digits (m : Nat) : ∃ digit more, m.repr.toList = digit :: more ∧
      ∀ c ∈ digit :: more, c.isDigit = true := by
    rw [Nat.toList_repr]
    obtain ⟨digit, more, same⟩ := List.exists_cons_of_ne_nil (Nat.toDigits_ne_nil (n := m) (b := 10))
    refine ⟨digit, more, same, fun c member => ?_⟩
    rw [← same] at member
    exact Nat.isDigit_of_mem_toDigits (by decide) (by decide) member
  rw [Int.toString_eq_repr, Int.repr_eq_if]
  split
  · obtain ⟨digit, more, same, all⟩ := digits n.toNat
    exact ⟨[], digit, more, same, Or.inl rfl, all⟩
  · obtain ⟨digit, more, same, all⟩ := digits (-n).toNat
    exact ⟨['-'], digit, more, by rw [String.toList_append, same]; rfl, Or.inr rfl, all⟩

/-- The characters of a number are pieces of their own: no second dash follows its sign. -/
theorem pieces_numeral (n : Int) (rest : List Char) :
    pieces ((toString n).toList ++ rest) = (toString n).toList.map .other ++ pieces rest := by
  obtain ⟨sign, digit, more, written, signs, all⟩ := numeral_toList n
  have named : ∀ c ∈ digit :: more, isNameChar c = true := fun c member => isNameChar_of_digit (all c member)
  rw [written, List.append_assoc]
  rcases signs with rfl | rfl
  · exact pieces_name named rest
  · have different : digit ≠ '-' := by
      rintro rfl
      exact absurd (all '-' (List.mem_cons_self ..)) (by decide)
    have closed : opens '-' (digit :: more ++ rest).head? = false := by simp [opens, different]
    exact (pieces_other closed (by decide)).trans (congrArg _ (pieces_name named rest))

theorem numeral_uncoloned (n : Int) : ':' ∉ (toString n).toList := by
  obtain ⟨sign, digit, more, written, signs, all⟩ := numeral_toList n
  intro member
  rw [written, List.mem_append] at member
  rcases member with inSign | inDigits
  · rcases signs with rfl | rfl
    · cases inSign
    · simp at inSign
  · exact absurd (all ':' inDigits) (by decide)

/-- Words without quotes, dashes, slashes and colons; of a closed text, this is found by evaluation. -/
private theorem pieces_words (words : List Char)
    (plain : words.all (· ∉ ['\'', '"', '-', '/', ':']) = true) (rest : List Char) :
    pieces (words ++ rest) = words.map .other ++ pieces rest :=
  pieces_quiet (fun c member => of_decide_eq_true (List.all_eq_true.mp plain c member)) rest

/-- Whether a dialect writes windows as the known systems do: the numbers as they are, or raised to
zero. -/
def WritesWindows (d : Dialect) : Prop := d.window = plainWindow ∨ d.window = clampedWindow

/-- Which integer a dialect writes for a given one: the same, or that raised to zero. -/
def Writes (d : Dialect) (given : Int64) (written : Int) : Prop :=
  (d.window = plainWindow ∧ written = given.toInt) ∨
    (d.window = clampedWindow ∧ written = max given.toInt 0)

/-- The clause for so many rows from a row on. -/
def windowText (count start : Int) : List Char :=
  ("LIMIT " ++ toString count ++ " OFFSET " ++ toString start).toList

theorem toInt_max (a b : Int64) : (max a b).toInt = max a.toInt b.toInt := by
  have either : max a b = if a ≤ b then b else a := rfl
  rw [either, Int.max_def]
  by_cases less : a ≤ b
  · rw [if_pos less, if_pos (Int64.le_iff_toInt_le.mp less)]
  · rw [if_neg less, if_neg fun le => less (Int64.le_iff_toInt_le.mpr le)]

theorem window_written {d : Dialect} (windows : WritesWindows d) (limit offset : Int64) :
    ∃ count start, Writes d limit count ∧ Writes d offset start ∧
      (d.window limit offset).toList = windowText count start := by
  rcases windows with plain | clamped
  · exact ⟨_, _, Or.inl ⟨plain, rfl⟩, Or.inl ⟨plain, rfl⟩, by rw [plain]; rfl⟩
  · refine ⟨_, _, Or.inr ⟨clamped, rfl⟩, Or.inr ⟨clamped, rfl⟩, ?_⟩
    rw [clamped, clampedWindow, plainWindow, toInt_max, toInt_max]
    rfl

private theorem windowText_parts (count start : Int) : windowText count start = "LIMIT ".toList ++
    ((toString count).toList ++ (" OFFSET ".toList ++ ((toString start).toList ++ []))) := by
  simp [windowText, String.toList_append]

theorem pieces_windowText (count start : Int) :
    pieces (windowText count start) = (windowText count start).map .other := by
  rw [windowText_parts, pieces_words _ (by decide), pieces_numeral, pieces_words _ (by decide),
    pieces_numeral, pieces_nil]
  simp only [List.map_append, List.map_nil]

theorem windowText_uncoloned (count start : Int) : ':' ∉ windowText count start := by
  have words : ':' ∉ "LIMIT ".toList ∧ ':' ∉ " OFFSET ".toList := by decide
  rw [windowText_parts]
  simp only [List.mem_append, List.not_mem_nil, or_false, not_or]
  exact ⟨words.1, numeral_uncoloned _, words.2, numeral_uncoloned _⟩

/-- The text of a literal or comment. -/
def verbatimText? : Piece → Option (List Char)
  | .verbatim text => some text
  | _ => none

/-- The literals and comments of a statement, in their order. -/
def verbatims (s : List Char) : List (List Char) := (pieces s).filterMap verbatimText?

theorem verbatimTexts_others (chars : List Char) :
    (chars.map Piece.other).filterMap verbatimText? = [] := by
  induction chars with
  | nil => rfl
  | cons c chars ih => exact ih

/-- Whether a literal or comment is one that the end of its line closes. -/
def isLineComment (text : List Char) : Bool := ['-', '-'].isPrefixOf text

/-- Whether all quoted literals and block comments of a statement are closed. -/
def EveryLiteralClosed (s : List Char) : Prop :=
  ∀ text ∈ verbatims s, isClosed text = true ∨ isLineComment text = true

instance (s : List Char) : Decidable (EveryLiteralClosed s) :=
  inferInstanceAs (Decidable (∀ text ∈ verbatims s, _))

/-- Whether the literals and comments of one statement are those of another, except that a line
comment at the end may have been trimmed and given a line break. -/
def Kept (before after : List (List Char)) : Prop :=
  after = before ∨ ∃ others comment, isLineComment comment = true ∧
    before = others ++ [comment] ∧ after = others ++ [Text.trimEnd comment ++ ['\n']]

/-- A literal or comment that is a piece of a statement is one by itself too. -/
theorem verbatim?_of_mem {s text : List Char} (member : Piece.verbatim text ∈ pieces s) :
    verbatim? text = some (text, []) := by
  induction s using pieces_induction with
  | nil => simp at member
  | verbatim s whole rest found ih =>
    rw [pieces_verbatim found, List.mem_cons] at member
    rcases member with same | later
    · cases same
      have cut := verbatim?_tail found (fun _ => rfl)
      rwa [List.append_nil] at cut
    · exact ih later
  | doubleColon rest ih => exact ih (by simpa [pieces_doubleColon] using member)
  | placeholder c name rest start named stop ih =>
    exact ih (by simpa [pieces_named start named stop] using member)
  | colon rest lone ih => exact ih (by simpa [pieces_loneColon lone] using member)
  | other c rest closed plain ih => exact ih (by simpa [pieces_other closed plain] using member)

/-- Either nothing of a statement is open at its end, or a literal or comment is. -/
theorem continued_cases (ps : List Piece) :
    (∀ behind, continued behind ps = ps ++ pieces behind) ∨
      ∃ front text, ps = front ++ [.verbatim text] ∧ isClosed text = false := by
  induction ps with
  | nil => exact Or.inl fun _ => rfl
  | cons piece rest ih =>
    rcases ih with closed | ⟨front, text, rfl, open_⟩
    · by_cases last : rest = [] ∧ ∃ text, piece = .verbatim text
      · obtain ⟨rfl, text, rfl⟩ := last
        cases ended : isClosed text with
        | true => exact Or.inl fun behind => by simp [continued, takenBy, ended]
        | false => exact Or.inr ⟨[], text, rfl, ended⟩
      · refine Or.inl fun behind => ?_
        rw [continued_cons behind, closed behind, List.cons_append]
        by_cases empty : rest = []
        · exact Or.inr fun text same => last ⟨empty, text, same⟩
        · exact Or.inl empty
    · exact Or.inr ⟨piece :: front, text, rfl, open_⟩

theorem continued_open {text : List Char} (open_ : isClosed text = false) (front : List Piece)
    (behind : List Char) : continued behind (front ++ [.verbatim text]) =
      front ++ .verbatim (text ++ (untilClosed text behind).1) ::
        pieces (untilClosed text behind).2 := by
  induction front with
  | nil => simp [continued, takenBy, open_]
  | cons piece front ih => rw [List.cons_append, continued_cons behind (Or.inl (by simp)), ih]; rfl

private theorem lineComment_open {text : List Char} (line : isLineComment text = true)
    (open_ : isClosed text = false) : ∃ inside, text = '-' :: '-' :: inside ∧ '\n' ∉ inside := by
  obtain ⟨inside, rfl⟩ := List.isPrefixOf_iff_prefix.mp line
  exact ⟨inside, rfl, by simpa [isClosed] using open_⟩

private theorem closing_of_append {inside behind : List Char} (slash : '/' ∉ behind)
    (closing : ['*', '/'] <:+: inside ++ behind) : ['*', '/'] <:+: inside := by
  obtain ⟨before, after, same⟩ := closing
  rcases List.append_eq_append_iff.mp same with ⟨rest, whole, _⟩ | ⟨cut, whole, rfl⟩
  · exact ⟨before, rest, whole.symm⟩
  · -- The closing characters reach past the comment, unless nothing of them is behind it.
    cases ended : cut.getLast? with
    | none =>
      rw [List.getLast?_eq_none_iff.mp ended, List.append_nil] at whole
      exact ⟨before, [], by rw [whole, List.append_nil]⟩
    | some last =>
      have final := congrArg List.getLast? whole
      rw [List.getLast?_append, List.getLast?_append, ended] at final
      cases final
      exact absurd (List.mem_append_left _ (List.mem_of_getLast? ended)) slash

/-- Blanks close no literal and no block comment. -/
private theorem open_blanks {text blanks : List Char} (found : verbatim? text = some (text, []))
    (open_ : isClosed text = false) (other : isLineComment text = false)
    (blank : ∀ c ∈ blanks, Text.isBlank c = true) :
    isClosed (text ++ blanks) = false ∧ isLineComment (text ++ blanks) = false := by
  have absent (c : Char) (active : c ∈ ['\'', '"', '-', '/', ':', '*']) : c ∉ blanks :=
    fun member => (blank_passive (blank c member)).2 active
  unfold verbatim? at found
  split at found
  · exact ⟨by simpa [isClosed, absent] using open_, rfl⟩
  · exact ⟨by simpa [isClosed, absent] using open_, rfl⟩
  · simp [isLineComment] at other
  · refine ⟨?_, rfl⟩
    rw [List.cons_append, List.cons_append, isClosed, ← Bool.not_eq_true, Text.contains_iff]
    rw [isClosed, ← Bool.not_eq_true, Text.contains_iff] at open_
    exact fun closing => open_ (closing_of_append (absent '/' (by decide)) closing)
  · cases found

/-- Where a line comment is open at the end of a query, the query's last line has two dashes. -/
private theorem mayEndInComment_of_open {front inside : List Char} (unbroken : '\n' ∉ inside) :
    Dialect.mayEndInComment (front ++ '-' :: '-' :: inside) = true := by
  have last : ∀ c ∈ inside.reverse ++ ['-', '-'], (c != '\n') = true := by
    intro c member
    rw [bne_iff_ne]
    rintro rfl
    simp at member
    exact unbroken member
  have reversed : (front ++ '-' :: '-' :: inside).reverse =
      (inside.reverse ++ ['-', '-']) ++ front.reverse := by simp
  have whole : (inside.reverse ++ ['-', '-']).reverse = ['-', '-'] ++ inside := by simp
  rw [Dialect.mayEndInComment, reversed, List.takeWhile_append_of_pos last, List.reverse_append,
    Text.contains_iff, whole, ← List.append_assoc]
  exact ⟨_, inside, rfl⟩

/-- A text that is not blank at its end stays when blanks behind it are trimmed. -/
private theorem trimEnd_blanks {s text blanks : List Char} (trimmed : text <:+ Text.trimEnd s)
    (blank : ∀ c ∈ blanks, Text.isBlank c = true) : Text.trimEnd (text ++ blanks) = text := by
  have visible : text.rdropWhile Text.isBlank = text := by
    refine List.rdropWhile_eq_self_iff.mpr fun nonempty => ?_
    obtain ⟨front, same⟩ := trimmed
    have whole : s.rdropWhile Text.isBlank ≠ [] := by
      intro empty
      rw [show Text.trimEnd s = [] from empty] at same
      exact nonempty (List.append_eq_nil_iff.mp same).2
    have last := List.rdropWhile_last_not Text.isBlank s whole
    have final : text.getLast nonempty = (s.rdropWhile Text.isBlank).getLast whole := by
      rw [← List.getLast_append_of_ne_nil (by simp [nonempty]) nonempty]
      congr
    rwa [final]
  have behind : ∀ c ∈ blanks.reverse, Text.isBlank c = true :=
    fun c member => blank c (List.mem_reverse.mp member)
  rw [Text.trimEnd, List.reverse_append, List.dropWhile_append_of_pos behind]
  exact visible

theorem verbatims_blanks {blanks : List Char} (blank : ∀ c ∈ blanks, Text.isBlank c = true) :
    verbatims blanks = [] := by
  have others := pieces_blanks blank []
  rw [List.append_nil, pieces_nil, List.append_nil] at others
  rw [verbatims, others, verbatimTexts_others]

/-- A query is read like its trimmed part with blanks behind it. -/
theorem pieces_trimmed (s : List Char) : ∃ blanks, (∀ c ∈ blanks, Text.isBlank c = true) ∧
    pieces s = continued blanks (pieces (Text.trimEnd s)) := by
  obtain ⟨blanks, whole, blank⟩ := trimEnd_append s
  have fresh : startsAfresh (blanks ++ []).head? = true := startsAfresh_blanks blank [] fun _ => rfl
  rw [List.append_nil] at fresh
  refine ⟨blanks, blank, ?_⟩
  rw [← pieces_append _ fresh, ← whole]

/-- Of a query whose literals and block comments are closed, only a line comment can be open when
the query has been trimmed. -/
private theorem lineComment_at_end {s text : List Char} {front : List Piece}
    (closed : EveryLiteralClosed s) (shape : pieces (Text.trimEnd s) = front ++ [.verbatim text])
    (open_ : isClosed text = false) : ∃ inside taken, text = '-' :: '-' :: inside ∧
      '\n' ∉ inside ∧ (∀ c ∈ taken, Text.isBlank c = true) ∧
      verbatims s = front.filterMap verbatimText? ++ [text ++ taken] := by
  obtain ⟨blanks, blank, reading⟩ := pieces_trimmed s
  have divided := untilClosed_append text blanks
  have taken : ∀ c ∈ (untilClosed text blanks).1, Text.isBlank c = true := fun c member =>
    blank c (divided ▸ List.mem_append_left _ member)
  have left : ∀ c ∈ (untilClosed text blanks).2, Text.isBlank c = true := fun c member =>
    blank c (divided ▸ List.mem_append_right _ member)
  have listed : verbatims s =
      front.filterMap verbatimText? ++ [text ++ (untilClosed text blanks).1] := by
    rw [← verbatims_blanks left, verbatims, reading, shape, continued_open open_,
      List.filterMap_append]
    rfl
  have found : verbatim? text = some (text, []) :=
    verbatim?_of_mem (s := Text.trimEnd s) (by rw [shape]; simp)
  -- Trimming takes blanks away, which close nothing but line comments: anything else that is open
  -- now was open before.
  have line : isLineComment text = true := by
    rw [← Bool.not_eq_false]
    intro other
    have still := open_blanks found open_ other taken
    rcases closed _ (listed ▸ List.mem_append_right _ (List.mem_singleton_self _)) with ended | comment
    · rw [still.1] at ended
      cases ended
    · rw [still.2] at comment
      cases comment
  obtain ⟨inside, rfl, unbroken⟩ := lineComment_open line open_
  exact ⟨inside, _, rfl, unbroken, taken, listed⟩

/-- The text behind a trimmed query stands outside its literals and comments, when a gap of blanks is
before it that ends a line comment. -/
theorem clause_outside {s : List Char} (closed : EveryLiteralClosed s) (gap clause : List Char)
    (blank : ∀ c ∈ gap, Text.isBlank c = true) (fresh : gap = [] → startsAfresh clause.head? = true)
    (ending : Dialect.mayEndInComment (Text.trimEnd s) = true → gap = ['\n']) :
    ∃ front, pieces (Text.trimEnd s ++ (gap ++ clause)) = front ++ pieces clause ∧
      Kept (verbatims s) (front.filterMap verbatimText?) := by
  rw [pieces_append _ (startsAfresh_blanks blank clause fresh)]
  rcases continued_cases (pieces (Text.trimEnd s)) with atEnd | ⟨front, text, shape, open_⟩
  · obtain ⟨blanks, trimmed, reading⟩ := pieces_trimmed s
    refine ⟨pieces (Text.trimEnd s) ++ gap.map .other, ?_, Or.inl ?_⟩
    · rw [atEnd, pieces_blanks blank, List.append_assoc]
    · rw [List.filterMap_append, verbatimTexts_others, List.append_nil, verbatims, reading, atEnd,
        List.filterMap_append, ← verbatims, ← verbatims, verbatims_blanks trimmed, List.append_nil]
  · obtain ⟨inside, taken, rfl, unbroken, blanks, listed⟩ := lineComment_at_end closed shape open_
    have query : front.flatMap Piece.text ++ '-' :: '-' :: inside = Text.trimEnd s := by
      rw [← pieces_text (Text.trimEnd s), shape]
      simp [Piece.text]
    have broken : gap = ['\n'] := ending (query ▸ mayEndInComment_of_open unbroken)
    refine ⟨front ++ [.verbatim ('-' :: '-' :: inside ++ ['\n'])], ?_, Or.inr ⟨_, _, rfl, listed, ?_⟩⟩
    · rw [shape, continued_open open_, broken]
      simp [untilClosed, through_cons]
    · rw [trimEnd_blanks ⟨_, query⟩ blanks, List.filterMap_append]
      rfl

/-- What stands before a counted query. -/
def countHead : List Char := "SELECT COUNT(*) FROM (".toList

/-- What stands behind a counted query. -/
def countTail : List Char := ") AS res".toList

theorem counted_toList (d : Dialect) (sql : String) : (d.counted sql).toList =
    countHead ++ (Text.trimEnd sql.toList ++
      ((if Dialect.mayEndInComment (Text.trimEnd sql.toList) then ['\n'] else []) ++ countTail)) := by
  unfold Dialect.counted countHead countTail
  rw [String.toList_ofList]
  simp only [List.append_assoc]

theorem limited_toList (d : Dialect) (sql : String) (limit offset : Int64) :
    (d.limited sql limit offset).toList = Text.trimEnd sql.toList ++
      ([if Dialect.mayEndInComment (Text.trimEnd sql.toList) then '\n' else ' '] ++
        (d.window limit offset).toList) := by
  unfold Dialect.limited
  rw [String.toList_ofList]
  simp only [List.append_assoc]

theorem pieces_countHead (s : List Char) :
    pieces (countHead ++ s) = countHead.map .other ++ pieces s :=
  pieces_words _ (by decide) s

theorem pieces_countTail : pieces countTail = countTail.map .other := by
  have words := pieces_words countTail (by decide) []
  rwa [List.append_nil, pieces_nil, List.append_nil] at words

private theorem outside_of_front {s clause : List Char} {before : List (List Char)}
    (front : List Piece) (shape : pieces s = front ++ clause.map .other)
    (kept : Kept before (front.filterMap verbatimText?)) :
    clause.map .other <:+ pieces s ∧ Kept before (verbatims s) := by
  refine ⟨⟨front, shape.symm⟩, ?_⟩
  rw [verbatims, shape, List.filterMap_append, verbatimTexts_others, List.append_nil]
  exact kept

/-- **Text behind a query is never swallowed.** The window of a page, with both its numbers, and the end of
a count stand outside all literals and comments, and those of the query are kept. -/
theorem appended_clauses_outside {d : Dialect} (windows : WritesWindows d) {sql : String}
    (closed : EveryLiteralClosed sql.toList) (limit offset : Int64) :
    (∃ count start, Writes d limit count ∧ Writes d offset start ∧
        (d.window limit offset).toList = windowText count start ∧
        (windowText count start).map .other <:+ pieces (d.limited sql limit offset).toList ∧
        Kept (verbatims sql.toList) (verbatims (d.limited sql limit offset).toList)) ∧
      (countTail.map .other <:+ pieces (d.counted sql).toList ∧
        Kept (verbatims sql.toList) (verbatims (d.counted sql).toList)) := by
  constructor
  · obtain ⟨count, start, counts, starts, window⟩ := window_written windows limit offset
    obtain ⟨front, shape, kept⟩ := clause_outside closed
      [if Dialect.mayEndInComment (Text.trimEnd sql.toList) then '\n' else ' ']
      (windowText count start) (by split <;> simp [Text.isBlank]) (by rintro ⟨⟩)
      (fun comment => by rw [if_pos comment])
    rw [pieces_windowText] at shape
    rw [limited_toList, window]
    exact ⟨count, start, counts, starts, rfl, outside_of_front front shape kept⟩
  · obtain ⟨front, shape, kept⟩ := clause_outside closed
      (if Dialect.mayEndInComment (Text.trimEnd sql.toList) then ['\n'] else []) countTail
      (by split <;> simp [Text.isBlank]) (fun _ => rfl) (fun comment => by rw [if_pos comment])
    rw [pieces_countTail] at shape
    rw [counted_toList]
    refine outside_of_front (countHead.map .other ++ front) ?_ ?_
    · rw [pieces_countHead, shape, List.append_assoc]
    · rw [List.filterMap_append, verbatimTexts_others]
      exact kept

/-- A query with dashes in a literal and a quote in a comment, and a line comment open at its end. -/
def commentedQuery : String := "SELECT '--' /* it's */ FROM notes -- last  "

theorem commentedQuery_clauses : EveryLiteralClosed commentedQuery.toList ∧
    Dialect.sqlite.window 16 (-5) = "LIMIT 16 OFFSET 0" ∧
    "LIMIT 16 OFFSET 0".toList.map .other <:+
      pieces (Dialect.sqlite.limited commentedQuery 16 (-5)).toList ∧
    Kept (verbatims commentedQuery.toList)
      (verbatims (Dialect.sqlite.counted commentedQuery).toList) := by
  have closed : EveryLiteralClosed commentedQuery.toList := by decide +kernel
  have text : Dialect.sqlite.window 16 (-5) = "LIMIT 16 OFFSET 0" := by decide
  obtain ⟨⟨count, start, _, _, written, clause, _⟩, _, kept⟩ :=
    appended_clauses_outside (d := .sqlite) (Or.inr rfl) closed 16 (-5)
  rw [text] at written
  exact ⟨closed, text, written ▸ clause, kept⟩

end NamedSql.AppendedClauses
