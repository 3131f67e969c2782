import Mathlib.Data.List.TakeWhile
import NamedSql.Store
import NamedSql.Proofs.ParameterNames
import NamedSql.Proofs.VerbatimBoundaries

/-! The pieces of a statement, one equation for each kind. A colon begins a placeholder only where a
name begins behind it, and the name then runs as far as it can; behind any other character a run of
name characters is so many pieces of its own. Of an expansion, the text follows from which names are
bound and the values from what they are bound to. -/
namespace NamedSql.StatementPieces
open Sql VerbatimBoundaries ParameterNames

private theorem pieces_first {s rest : List Char} {piece : Piece}
    (found : Piece.first? s = some (piece, rest)) : pieces s = piece :: pieces rest := by
  rw [pieces]
  split
  · rename_i nothing
    rw [found] at nothing
    cases nothing
  · rename_i same
    rw [found] at same
    cases same
    rfl

@[simp] theorem pieces_nil : pieces [] = [] := by
  rw [pieces]
  rfl

theorem pieces_verbatim {s text rest : List Char} (found : verbatim? s = some (text, rest)) :
    pieces s = .verbatim text :: pieces rest :=
  pieces_first (by rw [Piece.first?, found])

theorem pieces_other {c : Char} {s : List Char} (closed : opens c s.head? = false)
    (plain : c ≠ ':') : pieces (c :: s) = .other c :: pieces s := by
  have unquoted : verbatim? (c :: s) = none := verbatim?_cons_none.mpr closed
  apply pieces_first
  rw [Piece.first?, unquoted, Piece.plain?]
  · rintro _ rfl _
    exact plain rfl
  · rintro _ _ rfl _
    exact plain rfl

private theorem verbatim?_colon (s : List Char) : verbatim? (':' :: s) = none :=
  verbatim?_cons_none.mpr (by simp [opens])

/-- No quote, dash, slash or colon is part of a name. -/
theorem nameChar_quiet {c : Char} (named : isNameChar c = true) :
    c ∉ ['\'', '"', '-', '/', ':'] := by
  have passive : ∀ d ∈ ['\'', '"', '-', '/', ':'], isNameChar d = false := by simp [isNameChar]
  intro member
  rw [passive c member] at named
  cases named

/-- A character that a name may have in it opens nothing and is not a colon. -/
theorem nameChar_plain {c : Char} (named : isNameChar c = true) (next : Option Char) :
    opens c next = false ∧ c ≠ ':' := by
  have quiet := nameChar_quiet named
  simp only [List.mem_cons, not_or] at quiet
  obtain ⟨single, double, dash, slash, colon, _⟩ := quiet
  exact ⟨by simp [opens, single, double, dash, slash], colon⟩

theorem isNameChar_of_start {c : Char} (start : isNameStart c = true) : isNameChar c = true := by
  simp only [isNameStart, isNameChar, Char.isAlphanum, Bool.or_eq_true] at start ⊢
  rcases start with letter | underscore
  · exact Or.inl (Or.inl letter)
  · exact Or.inr underscore

theorem isNameChar_of_digit {c : Char} (digit : c.isDigit = true) : isNameChar c = true := by
  simp [isNameChar, Char.isAlphanum, digit]

theorem pieces_placeholder {c : Char} (start : isNameStart c = true) (s : List Char) :
    pieces (':' :: c :: s) =
      .placeholder (c :: s.takeWhile isNameChar) :: pieces (s.dropWhile isNameChar) := by
  have plain : c ≠ ':' := (nameChar_plain (isNameChar_of_start start) none).2
  apply pieces_first
  rw [Piece.first?, verbatim?_colon]
  simp [Piece.plain?, start]

/-- A colon before a name character that no name begins with stands for itself. -/
theorem pieces_colon {c : Char} (plain : c ≠ ':') (start : isNameStart c = false) (s : List Char) :
    pieces (':' :: c :: s) = .other ':' :: pieces (c :: s) := by
  apply pieces_first
  rw [Piece.first?, verbatim?_colon]
  simp [Piece.plain?, start]

/-- Name characters that no colon precedes are pieces of their own. -/
theorem pieces_name {name : List Char} (named : ∀ c ∈ name, isNameChar c = true) (s : List Char) :
    pieces (name ++ s) = name.map .other ++ pieces s := by
  induction name with
  | nil => rfl
  | cons c name ih =>
    obtain ⟨closed, plain⟩ := nameChar_plain (named c (by simp)) (name ++ s).head?
    rw [List.cons_append, pieces_other closed plain, ih fun d member => named d (by simp [member])]
    rfl

/-- The characters that no piece but themselves can begin with are pieces of their own. -/
theorem pieces_quiet {s : List Char} (quiet : ∀ c ∈ s, c ∉ ['\'', '"', '-', '/', ':'])
    (rest : List Char) : pieces (s ++ rest) = s.map .other ++ pieces rest := by
  induction s with
  | nil => rfl
  | cons c s ih =>
    have passive := quiet c (List.mem_cons_self ..)
    simp only [List.mem_cons, not_or] at passive
    have closed : opens c (s ++ rest).head? = false := by simp [opens, passive]
    rw [List.cons_append, pieces_other closed passive.2.2.2.2.1,
      ih fun d member => quiet d (List.mem_cons_of_mem _ member)]
    rfl

theorem pieces_dropWhile (s : List Char) :
    pieces (s.dropWhile isNameChar) = (pieces s).drop (s.takeWhile isNameChar).length := by
  have named : ∀ c ∈ s.takeWhile isNameChar, isNameChar c = true :=
    fun c member => List.mem_takeWhile_imp member
  have cut := pieces_name named (s.dropWhile isNameChar)
  rw [List.takeWhile_append_dropWhile] at cut
  rw [cut, List.drop_left' (by simp)]

theorem pieces_doubleColon (s : List Char) : pieces (':' :: ':' :: s) = .doubleColon :: pieces s := by
  apply pieces_first
  rw [Piece.first?, verbatim?_colon]
  rfl

/-- Whether a colon stands for itself, given the character after it. -/
def isLoneColon (next : Option Char) : Bool := !next.any fun c => c == ':' || isNameStart c

theorem pieces_loneColon {s : List Char} (lone : isLoneColon s.head? = true) :
    pieces (':' :: s) = .other ':' :: pieces s := by
  cases s with
  | nil => exact pieces_first rfl
  | cons c s =>
    simp only [isLoneColon, List.head?_cons, Option.any_some, Bool.not_eq_true',
      Bool.or_eq_false_iff, beq_eq_false_iff_ne] at lone
    exact pieces_colon lone.1 lone.2 s

/-- Reading a statement piece by piece. -/
theorem pieces_induction {motive : List Char → Prop} (nil : motive [])
    (verbatim : ∀ s text rest, verbatim? s = some (text, rest) → motive rest → motive s)
    (doubleColon : ∀ rest, motive rest → motive (':' :: ':' :: rest))
    (placeholder : ∀ c name rest, isNameStart c = true → (∀ d ∈ name, isNameChar d = true) →
      rest.head?.any isNameChar = false → motive rest → motive (':' :: c :: (name ++ rest)))
    (colon : ∀ rest, isLoneColon rest.head? = true → motive rest → motive (':' :: rest))
    (other : ∀ c rest, opens c rest.head? = false → c ≠ ':' → motive rest → motive (c :: rest)) :
    ∀ s, motive s := by
  intro s
  induction length : s.length using Nat.strongRecOn generalizing s with
  | ind n ih =>
    subst length
    cases s with
    | nil => exact nil
    | cons c s =>
      cases found : verbatim? (c :: s) with
      | some cut =>
        obtain ⟨text, rest⟩ := cut
        exact verbatim _ _ _ found (ih _ (verbatim?_length found) _ rfl)
      | none =>
        have shorter : motive s := ih _ (by simp) _ rfl
        by_cases plain : c = ':'
        · subst plain
          cases s with
          | nil => exact colon [] rfl shorter
          | cons d s =>
            by_cases double : d = ':'
            · subst double
              exact doubleColon s (ih _ (by simp only [List.length_cons]; omega) _ rfl)
            · cases start : isNameStart d with
              | false => exact colon _ (by simp [isLoneColon, double, start]) shorter
              | true =>
                have whole := List.takeWhile_append_dropWhile (p := isNameChar) (l := s)
                have behind : motive (s.dropWhile isNameChar) := by
                  refine ih _ ?_ _ rfl
                  have shorter := (List.dropWhile_suffix (l := s) isNameChar).length_le
                  simp only [List.length_cons]
                  omega
                rw [← whole]
                refine placeholder d _ _ start (fun e member => List.mem_takeWhile_imp member) ?_ behind
                have stop := List.head?_dropWhile_not isNameChar s
                cases after : (s.dropWhile isNameChar).head? with
                | none => rfl
                | some e => simpa [after] using stop
        · exact other c s (verbatim?_cons_none.mp found) plain shorter

/-- A placeholder's name ends where no name character follows. -/
theorem pieces_named {c : Char} {name rest : List Char} (start : isNameStart c = true)
    (named : ∀ d ∈ name, isNameChar d = true) (stop : rest.head?.any isNameChar = false) :
    pieces (':' :: c :: (name ++ rest)) = .placeholder (c :: name) :: pieces rest := by
  have taken : rest.takeWhile isNameChar = [] := by cases rest <;> simp_all
  have dropped : rest.dropWhile isNameChar = rest := by cases rest <;> simp_all
  rw [pieces_placeholder start, List.takeWhile_append_of_pos named,
    List.dropWhile_append_of_pos named, taken, dropped, List.append_nil]

/-- The pieces of a statement are all of it. -/
theorem pieces_text (s : List Char) : (pieces s).flatMap Piece.text = s := by
  induction s using pieces_induction with
  | nil => simp
  | verbatim s text rest found ih =>
    rw [pieces_verbatim found, List.flatMap_cons, ih]
    exact verbatim?_append found
  | doubleColon rest ih =>
    rw [pieces_doubleColon, List.flatMap_cons, ih]
    rfl
  | placeholder c name rest start named stop ih =>
    rw [pieces_named start named stop, List.flatMap_cons, ih]
    rfl
  | colon rest lone ih =>
    rw [pieces_loneColon lone, List.flatMap_cons, ih]
    rfl
  | other c rest closed plain ih =>
    rw [pieces_other closed plain, List.flatMap_cons, ih]
    rfl

/-- The name that a piece stands for the value of. -/
def placeholderName? : Piece → Option String
  | .placeholder name => some (String.ofList name)
  | _ => none

theorem placeholders_others (chars : List Char) (rest : List Piece) :
    (chars.map Piece.other ++ rest).filterMap placeholderName? = rest.filterMap placeholderName? := by
  induction chars with
  | nil => rfl
  | cons c chars ih => exact ih

/-- A piece that is no placeholder is kept, and the pieces behind it are expanded. -/
private theorem expandPieces_plain {params : Params} {render : Nat → Value → String} {number : Nat}
    {piece : Piece} {rest : List Piece} {text : List Char} {values : List Value}
    (plain : ∀ name, piece ≠ .placeholder name)
    (expanded : expandPieces params render number (piece :: rest) = .ok (text, values)) :
    ∃ behind, expandPieces params render number rest = .ok (behind, values) := by
  cases piece with
  | placeholder name => exact absurd rfl (plain name)
  | _ =>
    simp only [expandPieces] at expanded
    split at expanded
    · cases expanded
    · rename_i ran
      cases expanded
      exact ⟨_, ran⟩

/-- An expansion lists what the names of its placeholders are bound to. -/
theorem expandPieces_values {params : Params} {render : Nat → Value → String} {number : Nat}
    {pieces : List Piece} {text : List Char} {values : List Value}
    (expanded : expandPieces params render number pieces = .ok (text, values)) :
    (pieces.filterMap placeholderName?).map params.get? = values.map some := by
  induction pieces generalizing number text values with
  | nil => cases expanded; rfl
  | cons piece rest ih =>
    cases piece with
    | placeholder name =>
      simp only [expandPieces] at expanded
      split at expanded
      · cases expanded
      · rename_i value bound
        split at expanded
        · cases expanded
        · rename_i ran
          cases expanded
          simp [placeholderName?, bound, ih ran]
    | verbatim _ | doubleColon | other _ =>
      obtain ⟨_, ran⟩ := expandPieces_plain (by rintro _ ⟨⟩) expanded
      exact ih ran

/-- The text that pieces are expanded to, given only which names are bound. -/
def expandedText (names : List String) (placeholder : Nat → String) :
    Nat → List Piece → Except Unbound (List Char)
  | _, [] => .ok []
  | number, .placeholder name :: rest =>
    if String.ofList name ∈ names then
      (expandedText names placeholder (number + 1) rest).map ((placeholder number).toList ++ ·)
    else .error ⟨String.ofList name⟩
  | number, piece :: rest => (expandedText names placeholder number rest).map (piece.text ++ ·)

private theorem expandPieces_text (params : Params) (placeholder : Nat → String) (number : Nat)
    (pieces : List Piece) :
    (expandPieces params (fun n _ => placeholder n) number pieces).map Prod.fst =
      expandedText params.names placeholder number pieces := by
  induction pieces generalizing number with
  | nil => rfl
  | cons piece rest ih =>
    cases piece with
    | placeholder name =>
      simp only [expandPieces, expandedText, ← ih]
      cases bound : params.get? (String.ofList name) with
      | none =>
        rw [if_neg (get?_eq_none.mp bound)]
        rfl
      | some value =>
        rw [if_pos (mem_names_of_get? bound)]
        cases expandPieces params (fun n _ => placeholder n) (number + 1) rest <;> rfl
    | verbatim _ | doubleColon | other _ =>
      simp only [expandPieces, expandedText, ← ih]
      cases expandPieces params (fun n _ => placeholder n) number rest <;> rfl

/-- What placeholders become depends on which names are bound, not on what they are bound to. -/
theorem expand_text (d : Dialect) (sql : String) (params : Params) :
    (d.expand sql params).map Expansion.sql =
      ((expandedText params.names d.placeholder 1 (pieces sql.toList)).map String.ofList).mapError
        fun unbound => .unbound unbound.name := by
  rw [← expandPieces_text]
  unfold Dialect.expand expand
  cases expandPieces params (fun n _ => d.placeholder n) 1 (pieces sql.toList) <;> rfl

theorem expand_eq_ok {d : Dialect} {sql : String} {params : Params} {expansion : Expansion} :
    d.expand sql params = .ok expansion ↔
      expandPieces params (fun number _ => d.placeholder number) 1 (pieces sql.toList) =
        .ok (expansion.sql.toList, expansion.values) := by
  unfold Dialect.expand expand
  cases expandPieces params (fun number _ => d.placeholder number) 1 (pieces sql.toList) with
  | error unbound => simp
  | ok expanded =>
    obtain ⟨text, values⟩ := expanded
    obtain ⟨sql, listed⟩ := expansion
    simp [← String.toList_inj]

end NamedSql.StatementPieces
