import NamedSql.Proofs.AppendedClauses
import NamedSql.Proofs.CoercedExpansion

/-! The text of an expansion is scanned once more, by the database. What is written for a placeholder
therefore must not join with its neighbours: nothing in it may be read as a literal, a comment or a
placeholder, whatever follows, and its first character may not complete what opens a comment before
it. The placeholders of both dialects are such texts, and so are casts to any type that can be named
in one. -/
namespace NamedSql.SettledExpansion
open Sql VerbatimBoundaries StatementPieces BoundValues AppendedClauses CoercedExpansion Postgres

/-- Whether each character of a text is a piece of its own, whatever follows it. -/
def IsQuiet (text : List Char) : Prop := ∀ c ∈ text, c ∉ ['\'', '"', '-', '/', ':']

instance (text : List Char) : Decidable (IsQuiet text) := List.decidableBAll _ _

/-- Whether a piece is neither a literal or comment nor a placeholder. -/
def IsSilent (piece : Piece) : Prop := verbatimText? piece = none ∧ placeholderName? piece = none

/-- Whether a text is read as silent pieces of its own, whatever follows it. -/
def ReadsSilent (text : List Char) : Prop :=
  ∃ own, (∀ piece ∈ own, IsSilent piece) ∧ ∀ rest, pieces (text ++ rest) = own ++ pieces rest

/-- Whether a text can be put anywhere between pieces of a statement without joining with them. -/
structure StandsApart (text : List Char) : Prop where
  starts : ∃ c, text.head? = some c ∧ c ≠ '-' ∧ c ≠ '*'
  silent : ReadsSilent text

/-- What an expansion is when it is scanned again: it has the literals and comments of the statement,
and no placeholder is left to expand. -/
structure Settled (before after : String) : Prop where
  kept : verbatims after.toList = verbatims before.toList
  unnamed : placeholderNames after.toList = []
  final : ∀ params render, expand after params render = .ok ⟨after, []⟩

theorem isQuiet_append {first second : List Char} :
    IsQuiet (first ++ second) ↔ IsQuiet first ∧ IsQuiet second :=
  List.forall_mem_append

theorem readsSilent_quiet {text : List Char} (quiet : IsQuiet text) : ReadsSilent text := by
  refine ⟨text.map .other, fun piece member => ?_, pieces_quiet quiet⟩
  obtain ⟨c, _, rfl⟩ := List.mem_map.mp member
  exact ⟨rfl, rfl⟩

theorem readsSilent_doubleColon : ReadsSilent [':', ':'] :=
  ⟨[.doubleColon], by simp [IsSilent, verbatimText?, placeholderName?], pieces_doubleColon⟩

theorem readsSilent_append {first second : List Char} (one : ReadsSilent first)
    (two : ReadsSilent second) : ReadsSilent (first ++ second) := by
  obtain ⟨own, silent, read⟩ := one
  obtain ⟨more, quiet, reread⟩ := two
  refine ⟨own ++ more, List.forall_mem_append.mpr ⟨silent, quiet⟩, fun rest => ?_⟩
  rw [List.append_assoc, read, reread, List.append_assoc]

private theorem digits_quiet (number : Nat) : IsQuiet (toString number).toList := by
  intro c member
  have digit : c.isDigit = true := by
    rw [show toString number = number.repr from rfl, Nat.toList_repr] at member
    exact Nat.isDigit_of_mem_toDigits (by decide) (by decide) member
  exact nameChar_quiet (isNameChar_of_digit digit)

private theorem wireType_quiet (value : Value) : IsQuiet (wireType value).toList := by
  have quiet : ∀ type ∈ ["TEXT", "BOOL", "INT8", "FLOAT8"], IsQuiet type.toList := by decide
  apply quiet
  cases value <;> simp [wireType]

private theorem typeName_quiet {type : String} (named : IsTypeName type) : IsQuiet type.toList := by
  obtain ⟨first, name, suffix, whole, start, chars, ending⟩ := named
  have quiet : IsQuiet suffix := by
    rcases ending with rfl | rfl
    · decide
    · decide
  rw [whole, IsQuiet, List.forall_mem_cons]
  exact ⟨nameChar_quiet (isNameChar_of_start start),
    isQuiet_append.mpr ⟨fun c member => nameChar_quiet (chars c member), quiet⟩⟩

theorem standsApart_sqlite (number : Nat) : StandsApart (Dialect.sqlite.placeholder number).toList := by
  rw [show Dialect.sqlite.placeholder number = "?" from rfl]
  exact ⟨⟨'?', by decide, by decide, by decide⟩, readsSilent_quiet (by decide)⟩

theorem standsApart_numbered (number : Nat) : StandsApart ("$" ++ toString number).toList := by
  rw [String.toList_append]
  exact ⟨⟨'$', by simp, by decide, by decide⟩, readsSilent_quiet
    (isQuiet_append.mpr ⟨by decide, digits_quiet number⟩)⟩

/-- However a value is cast, its placeholder stands apart. -/
theorem standsApart_written {number : Nat} {value : Value} {inferred : Option String} {text : String}
    (written : Written number value inferred text) : StandsApart text.toList := by
  cases written with
  | plain => exact standsApart_numbered number
  | cast cast =>
    rename_i type
    have whole : ("CAST($" ++ toString number ++ "::" ++ wireType value ++ " AS " ++ type ++ ")").toList =
        ("CAST($".toList ++ (toString number).toList) ++ ([':', ':'] ++ ((wireType value).toList ++
          (" AS ".toList ++ (type.toList ++ [')'])))) := by
      simp [String.toList_append]
    rw [whole]
    refine ⟨⟨'C', by simp, by decide, by decide⟩, readsSilent_append (readsSilent_quiet ?_)
      (readsSilent_append readsSilent_doubleColon (readsSilent_quiet ?_))⟩
    · exact isQuiet_append.mpr ⟨by decide, digits_quiet number⟩
    · simp only [isQuiet_append]
      exact ⟨wireType_quiet value, by decide, typeName_quiet cast.named, by decide⟩

/-- A statement begins as it did, or else with the text of its first placeholder. -/
private theorem filled_head? (ps : List Piece) {texts : List String}
    (apart : ∀ text ∈ texts, StandsApart text.toList) :
    (filled ps texts).head? = (ps.flatMap Piece.text).head? ∨
      (ps.flatMap Piece.text).head? = some ':' ∧
        ∃ c, (filled ps texts).head? = some c ∧ c ≠ '-' ∧ c ≠ '*' := by
  induction ps with
  | nil => exact Or.inl rfl
  | cons piece rest ih =>
    cases piece with
    | placeholder name =>
      cases texts with
      | nil => exact Or.inl (by rw [filled_nil])
      | cons text texts =>
        obtain ⟨c, first, starts⟩ := (apart text (List.mem_cons_self ..)).starts
        exact Or.inr ⟨rfl, c, by rw [filled, List.head?_append, first]; rfl, starts⟩
    | verbatim text =>
      rw [filled_kept rfl, List.flatMap_cons, Piece.text]
      cases text with
      | nil => exact ih
      | cons c text => exact Or.inl rfl
    | doubleColon | other _ =>
      rw [filled_kept rfl]
      exact Or.inl rfl

variable {s : List Char} {texts : List String}

private theorem opens_filled {c : Char} (closed : opens c s.head? = false)
    (apart : ∀ text ∈ texts, StandsApart text.toList) :
    opens c (filled (pieces s) texts).head? = false := by
  rcases filled_head? (pieces s) apart with same | ⟨colon, first, found, dash, star⟩
  · rwa [same, pieces_text]
  · rw [pieces_text] at colon
    rw [colon] at closed
    rw [found]
    simpa [opens, dash, star] using closed

private theorem isLoneColon_filled (lone : isLoneColon s.head? = true)
    (apart : ∀ text ∈ texts, StandsApart text.toList) :
    isLoneColon (filled (pieces s) texts).head? = true := by
  rcases filled_head? (pieces s) apart with same | ⟨colon, _⟩
  · rwa [same, pieces_text]
  · rw [pieces_text] at colon
    rw [colon] at lone
    cases lone

/-- Silent pieces add nothing that is kept or expanded. -/
private theorem silent_filterMap {α : Type} {f : Piece → Option α} {own : List Piece}
    (silent : ∀ piece ∈ own, f piece = none) (rest : List Piece) :
    (own ++ rest).filterMap f = rest.filterMap f := by
  rw [List.filterMap_append, List.filterMap_eq_nil_iff.mpr silent, List.nil_append]

/-- **Texts that stand apart.** A statement with such texts in the place of its placeholders has the same
literals and comments, and no placeholders. -/
theorem filled_apart (apart : ∀ text ∈ texts, StandsApart text.toList)
    (enough : texts.length = (placeholderNames s).length) :
    verbatims (filled (pieces s) texts) = verbatims s ∧
      placeholderNames (filled (pieces s) texts) = [] := by
  induction s using pieces_induction generalizing texts with
  | nil => simp [filled, verbatims, placeholderNames]
  | verbatim s text rest found ih =>
    rw [placeholderNames, pieces_verbatim found] at enough
    have ended : rest = [] → filled (pieces rest) texts = [] := by
      rintro rfl
      rw [pieces_nil, filled]
    have cut := pieces_verbatim (verbatim?_tail found ended)
    obtain ⟨kept, none⟩ := ih apart enough
    rw [verbatims, placeholderNames, verbatims, pieces_verbatim found, filled_kept rfl, Piece.text, cut]
    exact ⟨congrArg (text :: ·) kept, none⟩
  | doubleColon rest ih =>
    rw [placeholderNames, pieces_doubleColon] at enough
    rw [verbatims, placeholderNames, verbatims, pieces_doubleColon, filled_kept rfl]
    exact pieces_doubleColon (filled (pieces rest) texts) ▸ ih apart enough
  | placeholder c name rest start named stop ih =>
    rw [placeholderNames, pieces_named start named stop] at enough
    cases texts with
    | nil => cases enough
    | cons text texts =>
      obtain ⟨own, silent, read⟩ := (apart text (List.mem_cons_self ..)).silent
      rw [verbatims, placeholderNames, verbatims, pieces_named start named stop, filled, read,
        silent_filterMap fun piece member => (silent piece member).1,
        silent_filterMap fun piece member => (silent piece member).2]
      exact ih (fun text member => apart text (List.mem_cons_of_mem _ member)) (Nat.succ.inj enough)
  | colon rest lone ih =>
    rw [placeholderNames, pieces_loneColon lone] at enough
    rw [verbatims, placeholderNames, verbatims, pieces_loneColon lone, filled_kept rfl]
    exact pieces_loneColon (isLoneColon_filled lone apart) ▸ ih apart enough
  | other c rest closed plain ih =>
    rw [placeholderNames, pieces_other closed plain] at enough
    rw [verbatims, placeholderNames, verbatims, pieces_other closed plain, filled_kept rfl]
    exact pieces_other (opens_filled closed apart) plain ▸ ih apart enough

/-- A statement without placeholders is expanded to itself, whatever is bound. -/
theorem expand_unnamed {sql : String} (unnamed : placeholderNames sql.toList = []) (params : Params)
    (render : Nat → Value → String) : expand sql params render = .ok ⟨sql, []⟩ := by
  have values := expand_values sql params render
  rw [unnamed] at values
  cases expanded : expand sql params render with
  | error unbound =>
    rw [expanded] at values
    cases values
  | ok e =>
    obtain ⟨after, listed⟩ := e
    rw [expanded] at values
    obtain rfl : listed = [] := Except.ok.inj values
    have text : after = _ := (expand_filled expanded).2
    rw [text, List.mapIdx_nil, filled_nil, pieces_text, String.ofList_toList]

/-- An expansion is settled where whatever is written for a placeholder stands apart. -/
theorem settled_of_apart {sql : String} {params : Params} {render : Nat → Value → String} {e : Expansion}
    (expanded : expand sql params render = .ok e)
    (apart : ∀ number value, StandsApart (render number value).toList) : Settled sql e.sql := by
  obtain ⟨length, text⟩ := expand_filled expanded
  have written : ∀ text ∈ e.values.mapIdx fun i value => render (i + 1) value, StandsApart text.toList := by
    intro text member
    obtain ⟨i, _, rfl⟩ := List.mem_mapIdx.mp member
    exact apart _ _
  obtain ⟨kept, unnamed⟩ := filled_apart written (by rwa [List.length_mapIdx])
  have whole := (congrArg String.toList text).trans String.toList_ofList
  rw [← whole] at kept unnamed
  exact ⟨kept, unnamed, expand_unnamed unnamed⟩

private theorem settled_of_dialect {d : Dialect} {sql : String} {params : Params} {e : Expansion}
    (apart : ∀ number, StandsApart (d.placeholder number).toList) (expanded : d.expand sql params = .ok e) :
    Settled sql e.sql := by
  unfold Dialect.expand at expanded
  cases ran : expand sql params fun number _ => d.placeholder number with
  | error unbound =>
    rw [ran] at expanded
    cases expanded
  | ok expansion =>
    rw [ran] at expanded
    cases expanded
    exact settled_of_apart ran fun number _ => apart number

/-- **An expansion is settled.** Scanned again, by a database or for another expansion, it has the
literals and comments of the statement and nothing to expand. This holds for the placeholders of both
dialects and for casts to whatever types a server infers. -/
theorem expansion_settles (sql : String) (params : Params) :
    (∀ e, Dialect.sqlite.expand sql params = .ok e → Settled sql e.sql) ∧
      (∀ e, Dialect.postgres.expand sql params = .ok e → Settled sql e.sql) ∧
      ∀ inferred e, expandCoerced sql params inferred = .ok e → Settled sql e.sql :=
  ⟨fun _ => settled_of_dialect standsApart_sqlite, fun _ => settled_of_dialect standsApart_numbered,
    fun _ _ ran => settled_of_apart ran fun _ _ => standsApart_written (coercedPlaceholder_written _ _ _)⟩

/-- A query whose placeholders stand next to literals, comments, dashes, stars and colons. -/
def crowdedQuery : String := "SELECT 'it''s :a'||:::a-:a*:b/*:b*/ /:b--:a"

theorem crowdedQuery_settled :
    Settled crowdedQuery "SELECT 'it''s :a'||::?-?*?/*:b*/ /?--:a" ∧
      Settled crowdedQuery
        "SELECT 'it''s :a'||::CAST($1::TEXT AS int4[])-$2*$3/*:b*/ /CAST($4::INT8 AS TEXT)--:a" := by
  have settles := expansion_settles crowdedQuery ⟨[("a", .text "1"), ("b", .int 2)]⟩
  exact ⟨settles.1 ⟨_, [.text "1", .text "1", .int 2, .int 2]⟩ (by decide +kernel),
    settles.2.2 [some "int4[]", none, some "int4", some "TEXT"]
      ⟨_, [.text "1", .text "1", .int 2, .int 2]⟩ (by decide +kernel)⟩

end NamedSql.SettledExpansion
