import NamedSql.Proofs.BoundValues
import NamedSql.Proofs.ReferenceBinding

/-! The names of a statement's placeholders, read one character at a time. What has been read so far
matters for the next character only as far as a name is begun or may begin, so the reading of a text
is put together from the readings of its parts. Every literal and comment counts as one symbol, at
which a name ends. -/
namespace NamedSql.NameScan
open Sql VerbatimBoundaries StatementParts StatementPieces ReferenceBinding BoundValues

/-- A statement with one symbol for each literal and comment and its other characters as they are. -/
def symbols (s : List Char) : List (Option Char) :=
  match _found : verbatim? s with
  | some (_, rest) => none :: symbols rest
  | none =>
    match s with
    | [] => []
    | c :: rest => some c :: symbols rest
termination_by s.length
decreasing_by
  · exact verbatim?_length _found
  · simp

@[simp] theorem symbols_nil : symbols [] = [] := by
  rw [symbols]
  rfl

theorem symbols_verbatim {s text rest : List Char} (found : verbatim? s = some (text, rest)) :
    symbols s = none :: symbols rest := by
  rw [symbols]
  split
  · rename_i same
    rw [found] at same
    cases same
    rfl
  · rename_i same
    rw [found] at same
    cases same

theorem symbols_other {c : Char} {s : List Char} (closed : opens c s.head? = false) :
    symbols (c :: s) = some c :: symbols s := by
  rw [symbols]
  split
  · rename_i found
    rw [verbatim?_cons_none.mpr closed] at found
    cases found
  · rfl

theorem symbols_colon (s : List Char) : symbols (':' :: s) = some ':' :: symbols s :=
  symbols_other (by simp [opens])

theorem symbols_name {name : List Char} (named : ∀ c ∈ name, isNameChar c = true) (s : List Char) :
    symbols (name ++ s) = name.map some ++ symbols s := by
  induction name with
  | nil => rfl
  | cons c name ih =>
    simp only [List.forall_mem_cons] at named
    rw [List.cons_append, symbols_other (nameChar_plain named.1 _).1, ih named.2]
    rfl

/-- A statement's first symbol, where it is a character, is its first character. -/
theorem head?_symbols {s : List Char} {c : Char} (first : (symbols s).head? = some (some c)) :
    s.head? = some c := by
  cases s with
  | nil => simp at first
  | cons d s =>
    cases found : verbatim? (d :: s) with
    | some cut =>
      rw [symbols_verbatim found] at first
      cases first
    | none =>
      rw [symbols_other (verbatim?_cons_none.mp found)] at first
      cases first
      rfl

/-- How far a placeholder has been read. -/
inductive Mode where
  | plain
  /-- Behind a colon that may begin one. -/
  | colon
  | name (taken : List Char)

/-- Reads one more symbol. -/
def Mode.next : Mode → Option Char → Mode
  | _, none => .plain
  | .plain, some c => if c = ':' then .colon else .plain
  | .colon, some c => if isNameStart c then .name [c] else .plain
  | .name taken, some c =>
    if isNameChar c then .name (taken ++ [c]) else if c = ':' then .colon else .plain

/-- The name that ends before a symbol. -/
def Mode.ended : Mode → Option Char → List String
  | .name taken, symbol => if symbol.any isNameChar then [] else [String.ofList taken]
  | _, _ => []

/-- The mode that symbols are left in. -/
def after (mode : Mode) (symbols : List (Option Char)) : Mode := symbols.foldl Mode.next mode

/-- The names that end among symbols. -/
def endedAmong : Mode → List (Option Char) → List String
  | _, [] => []
  | mode, symbol :: rest => mode.ended symbol ++ endedAmong (mode.next symbol) rest

/-- All names of symbols that nothing follows. -/
def names (mode : Mode) (symbols : List (Option Char)) : List String :=
  endedAmong mode symbols ++ (after mode symbols).ended none

theorem names_cons (mode : Mode) (symbol : Option Char) (rest : List (Option Char)) :
    names mode (symbol :: rest) = mode.ended symbol ++ names (mode.next symbol) rest := by
  rw [names, names, endedAmong, List.append_assoc]
  rfl

theorem names_append (mode : Mode) (front rest : List (Option Char)) :
    names mode (front ++ rest) = endedAmong mode front ++ names (after mode front) rest := by
  induction front generalizing mode with
  | nil => rfl
  | cons symbol front ih =>
    rw [List.cons_append, names_cons, ih, endedAmong, List.append_assoc]
    rfl

/-- Whether symbols begin with none that could continue a name. -/
def Stops (symbols : List (Option Char)) : Prop :=
  ∀ c, symbols.head? = some (some c) → isNameChar c = false

/-- A name that is not continued has ended. -/
theorem names_stopped (taken : List Char) {rest : List (Option Char)} (stops : Stops rest) :
    names (.name taken) rest = String.ofList taken :: names .plain rest := by
  cases rest with
  | nil => rfl
  | cons symbol rest =>
    rw [names_cons, names_cons]
    cases symbol with
    | none => rfl
    | some c =>
      have unnamed := stops c rfl
      simp [Mode.ended, Mode.next, unnamed]

private theorem after_name (taken : List Char) {name : List Char}
    (named : ∀ c ∈ name, isNameChar c = true) :
    endedAmong (.name taken) (name.map some) = [] ∧
      after (.name taken) (name.map some) = .name (taken ++ name) := by
  induction name generalizing taken with
  | nil => simp [endedAmong, after]
  | cons c name ih =>
    simp only [List.forall_mem_cons] at named
    obtain ⟨nothing, whole⟩ := ih (taken ++ [c]) named.2
    have step : Mode.next (.name taken) (some c) = .name (taken ++ [c]) := by simp [Mode.next, named.1]
    constructor
    · simp [endedAmong, step, nothing, Mode.ended, named.1]
    · rw [List.map_cons, after, List.foldl_cons, step, ← after, whole]
      simp

theorem names_placeholder {c : Char} {name : List Char} {rest : List (Option Char)}
    (start : isNameStart c = true) (named : ∀ d ∈ name, isNameChar d = true) (stops : Stops rest) :
    names .plain (some ':' :: some c :: (name.map some ++ rest)) =
      String.ofList (c :: name) :: names .plain rest := by
  obtain ⟨nothing, whole⟩ := after_name [c] named
  have colon : Mode.next .plain (some ':') = .colon := rfl
  have first : Mode.next .colon (some c) = .name [c] := by simp [Mode.next, start]
  rw [names_cons, names_cons, colon, first, names_append, nothing, whole, names_stopped _ stops]
  rfl

/-- A colon that begins no placeholder is like any other character. -/
private theorem names_loneColon {rest : List (Option Char)}
    (lone : ∀ c, rest.head? = some (some c) → isLoneColon (some c) = true) :
    names .colon rest = names .plain rest := by
  cases rest with
  | nil => rfl
  | cons symbol rest =>
    rw [names_cons, names_cons]
    cases symbol with
    | none => rfl
    | some c =>
      have different := lone c rfl
      simp only [isLoneColon, Option.any_some, Bool.not_eq_true', Bool.or_eq_false_iff,
        beq_eq_false_iff_ne] at different
      simp [Mode.ended, Mode.next, different]

/-- The placeholders of a statement have the names that are read from its symbols. -/
theorem names_symbols (s : List Char) : names .plain (symbols s) = placeholderNames s := by
  unfold placeholderNames
  -- Between two pieces no name is pending, so the mode is plain again.
  induction s using pieces_induction with
  | nil => rw [symbols_nil, pieces_nil]; rfl
  | verbatim s text rest cut ih =>
    rw [symbols_verbatim cut, pieces_verbatim cut, names_cons]
    exact ih
  | doubleColon rest ih =>
    rw [symbols_colon, symbols_colon, pieces_doubleColon, names_cons, names_cons]
    exact ih
  | placeholder c name rest start named stop ih =>
    have stops : Stops (symbols rest) := by
      intro d first
      rw [head?_symbols first] at stop
      simpa using stop
    have written : symbols (c :: (name ++ rest)) = some c :: (name.map some ++ symbols rest) := by
      rw [symbols_other (nameChar_plain (isNameChar_of_start start) _).1, symbols_name named]
    rw [symbols_colon, written, names_placeholder start named stops, pieces_named start named stop, ih]
    rfl
  | colon rest lone ih =>
    have alone : ∀ c, (symbols rest).head? = some (some c) → isLoneColon (some c) = true := by
      intro c first
      rwa [head?_symbols first] at lone
    rw [symbols_colon, pieces_loneColon lone, names_cons]
    exact (names_loneColon alone).trans ih
  | other c rest closed plain ih =>
    rw [symbols_other closed, pieces_other closed plain, names_cons]
    simp only [Mode.ended, Mode.next, if_neg plain]
    exact ih

/-- The symbols of a part when it has been rewritten. -/
def partSymbols : Part → List (Option Char)
  | .verbatim _ => [none]
  | .reference name => some ':' :: name.map some
  | .other c => [some c]

/-- Rewriting a statement's references opens no literal and no comment. -/
theorem symbols_rewritten (s : List Char) :
    symbols (rewritten s) = (parts s).flatMap partSymbols := by
  induction s using parts_induction with
  | nil => simp [rewritten_nil]
  | verbatim s text rest cut ih =>
    have behind : rest = [] → rewritten rest = [] := by
      rintro rfl
      exact rewritten_nil
    rw [rewritten_verbatim cut, symbols_verbatim (verbatim?_tail cut behind), parts_verbatim cut, ih]
    rfl
  | reference name rest named ih =>
    rw [rewritten_reference named, symbols_colon, symbols_name named.2, parts_reference named, ih]
    rfl
  | other c rest closed unreferenced ih =>
    rw [rewritten_other closed unreferenced, symbols_other (opens_rewritten closed),
      parts_other closed unreferenced, ih]
    rfl

end NamedSql.NameScan
