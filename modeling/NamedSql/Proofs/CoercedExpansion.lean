import NamedSql.Postgres.Cast
import NamedSql.Proofs.BoundValues

/-! A PostgreSQL statement is expanded twice, plainly to learn the types that the server infers for its
placeholders, and then with casts to these. Both expansions bind the same values under the same
numbers; only the placeholders themselves are written otherwise. -/
namespace NamedSql.CoercedExpansion
open Sql StatementPieces BoundValues Postgres

/-- Whether a text can be written as the type of a cast: an identifier, with brackets behind it for
the type of an array. -/
def IsTypeName (type : String) : Prop :=
  ∃ c name suffix, type.toList = c :: (name ++ suffix) ∧ isNameStart c = true ∧
    (∀ d ∈ name, isNameChar d = true) ∧ (suffix = [] ∨ suffix = ['[', ']'])

/-- Whether a value is a boolean or a number. -/
def isTyped : Value → Bool
  | .bool _ | .int _ | .float _ => true
  | .null | .text _ => false

/-- When a value is cast to a type: the server has inferred it, it can be written in a cast, it is
not the type the value has already, and it is a type of texts unless the value is a text. -/
structure IsCast (value : Value) (inferred : Option String) (type : String) : Prop where
  asked : inferred = some type
  named : IsTypeName type
  different : type.toList.map Char.toLower ≠ (wireType value).toList.map Char.toLower
  textual : isTyped value = true → type = "TEXT" ∨ type = "VARCHAR" ∨ type = "BPCHAR" ∨ type = "NAME"

/-- How the placeholder of a value is written: with a cast if there is one, else by its number. -/
inductive Written (number : Nat) (value : Value) (inferred : Option String) : String → Prop
  | plain (uncast : ∀ type, ¬IsCast value inferred type) :
      Written number value inferred ("$" ++ toString number)
  | cast {type : String} (cast : IsCast value inferred type) :
      Written number value inferred
        ("CAST($" ++ toString number ++ "::" ++ wireType value ++ " AS " ++ type ++ ")")

/-- A statement with texts in the place of its placeholders. -/
def filled : List Piece → List String → List Char
  | [], _ => []
  | .placeholder _ :: rest, text :: texts => text.toList ++ filled rest texts
  | piece :: rest, texts => piece.text ++ filled rest texts

theorem filled_kept {piece : Piece} (kept : placeholderName? piece = none) (rest : List Piece)
    (texts : List String) : filled (piece :: rest) texts = piece.text ++ filled rest texts := by
  cases piece with
  | placeholder name => cases kept
  | verbatim _ | doubleColon | other _ =>
    rw [filled]
    rintro _ _ _ _ ⟨⟩

/-- Without texts to put in their place, placeholders stay. -/
theorem filled_nil (ps : List Piece) : filled ps [] = ps.flatMap Piece.text := by
  induction ps with
  | nil => rfl
  | cons piece rest ih =>
    rw [filled, ih, List.flatMap_cons]
    rintro _ _ _ ⟨⟩

/-- That an expansion differs from the plain one in nothing but how placeholders are written. -/
structure Refines (sql : String) (inferred : List (Option String)) (plain coerced : Expansion) :
    Prop where
  values : coerced.values = plain.values
  counted : plain.values.length = (placeholderNames sql.toList).length
  positional : plain.sql = String.ofList (filled (pieces sql.toList)
    (plain.values.mapIdx fun i _ => "$" ++ toString (i + 1)))
  written : ∃ texts : List String, texts.length = plain.values.length ∧
    coerced.sql = String.ofList (filled (pieces sql.toList) texts) ∧
    ∀ (i : Nat) (value : Value), plain.values[i]? = some value →
      ∃ text, texts[i]? = some text ∧ Written (i + 1) value inferred[i]?.join text

theorem isCastable_iff (type : String) : isCastable type = true ↔ IsTypeName type := by
  unfold isCastable IsTypeName
  cases type.toList with
  | nil => simp
  | cons c rest =>
    rw [Bool.and_eq_true]
    constructor
    · rintro ⟨start, ending⟩
      refine ⟨c, rest.takeWhile isNameChar, rest.dropWhile isNameChar, ?_, start, ?_, ?_⟩
      · rw [List.takeWhile_append_dropWhile]
      · exact fun d member => List.mem_takeWhile_imp member
      · split at ending
        · next left => exact Or.inl left
        · next left => exact Or.inr left
        · cases ending
    · rintro ⟨first, name, suffix, same, start, named, ending⟩
      obtain ⟨rfl, rfl⟩ := List.cons.inj same
      refine ⟨start, ?_⟩
      rw [List.dropWhile_append_of_pos named]
      rcases ending with rfl | rfl
      · rfl
      · rfl

theorem castTarget?_eq_some {value : Value} {inferred : Option String} {type : String} :
    castTarget? value inferred = some type ↔ IsCast value inferred type := by
  rw [castTarget?, Option.filter_eq_some_iff, Bool.and_eq_true, Bool.and_eq_true, isCastable_iff]
  have textual : isConvertible value type = true ↔ (isTyped value = true →
      type = "TEXT" ∨ type = "VARCHAR" ∨ type = "BPCHAR" ∨ type = "NAME") := by
    cases value <;> simp [isConvertible, isTyped]
  have different : (!sameName type (wireType value)) = true ↔
      type.toList.map Char.toLower ≠ (wireType value).toList.map Char.toLower := by
    simp [sameName]
  rw [textual, different]
  constructor
  · rintro ⟨asked, ⟨textual, different⟩, named⟩
    exact ⟨asked, named, different, textual⟩
  · rintro ⟨asked, named, different, textual⟩
    exact ⟨asked, ⟨textual, different⟩, named⟩

theorem coercedPlaceholder_written (number : Nat) (value : Value) (inferred : Option String) :
    Written number value inferred (coercedPlaceholder number value inferred) := by
  unfold coercedPlaceholder
  cases target : castTarget? value inferred with
  | none =>
    refine .plain fun type cast => ?_
    rw [castTarget?_eq_some.mpr cast] at target
    cases target
  | some type =>
    have cast := castTarget?_eq_some.mp target
    have text : "CAST(" ++ Dialect.postgres.placeholder number ++ "::" ++ wireType value ++ " AS " ++
        type ++ ")" = "CAST($" ++ toString number ++ "::" ++ wireType value ++ " AS " ++ type ++ ")" := by
      apply String.toList_injective
      simp [Dialect.postgres]
    simp only
    rw [text]
    exact .cast cast

variable {params : Params} {render : Nat → Value → String}

/-- The text of an expansion is the statement with one text for each value. -/
theorem expandPieces_filled {number : Nat} {pieces : List Piece} {text : List Char}
    {values : List Value} (expanded : expandPieces params render number pieces = .ok (text, values)) :
    values.length = (pieces.filterMap placeholderName?).length ∧
      text = filled pieces (values.mapIdx fun i value => render (number + i) value) := by
  induction pieces generalizing number text values with
  | nil =>
    cases expanded
    exact ⟨rfl, rfl⟩
  | cons piece rest ih =>
    cases piece with
    | placeholder name =>
      rw [expandPieces_placeholder] at expanded
      cases bound : boundValue params (String.ofList name) with
      | error unbound => rw [bound] at expanded; cases expanded
      | ok value =>
        rw [bound] at expanded
        cases later : expandPieces params render (number + 1) rest with
        | error unbound => rw [later] at expanded; cases expanded
        | ok cut =>
          rw [later] at expanded
          cases expanded
          obtain ⟨length, same⟩ := ih later
          refine ⟨congrArg (· + 1) length, ?_⟩
          rw [List.mapIdx_cons, filled, same]
          simp only [Nat.add_zero, Nat.add_assoc, Nat.add_comm 1]
    | verbatim _ | doubleColon | other _ =>
      rw [expandPieces_kept rfl] at expanded
      cases later : expandPieces params render number rest with
      | error unbound => rw [later] at expanded; cases expanded
      | ok cut =>
        rw [later] at expanded
        cases expanded
        obtain ⟨length, same⟩ := ih later
        refine ⟨length, ?_⟩
        rw [same]
        rfl

/-- An expansion that succeeds, as the statement filled with one text for each value. -/
theorem expand_filled {sql : String} {expansion : Expansion}
    (expanded : expand sql params render = .ok expansion) :
    expansion.values.length = (placeholderNames sql.toList).length ∧
      expansion.sql = String.ofList (filled (pieces sql.toList)
        (expansion.values.mapIdx fun i value => render (i + 1) value)) := by
  unfold expand at expanded
  split at expanded
  · cases expanded
  · next text values same =>
    cases expanded
    obtain ⟨length, filling⟩ := expandPieces_filled same
    refine ⟨length, ?_⟩
    simp only [filling, Nat.add_comm 1]

theorem expandCoerced_values (sql : String) (params : Params) (inferred : List (Option String)) :
    (expandCoerced sql params inferred).map Expansion.values =
      boundValues params (placeholderNames sql.toList) :=
  expand_values sql params _

/-- **Coercion changes placeholders only.** With any list of inferred types, the coerced expansion
fails where the plain one does, for want of the same name, and else differs from it in nothing but
how placeholders are written. -/
theorem coerced_expansion_refines_plain (sql : String) (params : Params)
    (inferred : List (Option String)) :
    (∃ plain coerced, Dialect.postgres.expand sql params = .ok plain ∧
        expandCoerced sql params inferred = .ok coerced ∧ Refines sql inferred plain coerced) ∨
      ∃ unbound, Dialect.postgres.expand sql params = .error (.unbound unbound.name) ∧
        expandCoerced sql params inferred = .error unbound := by
  have alike : (expand sql params fun number _ => Dialect.postgres.placeholder number).map
      Expansion.values = (expandCoerced sql params inferred).map Expansion.values := by
    rw [expand_values, expandCoerced_values]
  unfold Dialect.expand
  cases plain : expand sql params fun number _ => Dialect.postgres.placeholder number with
  | error unbound =>
    right
    rw [plain] at alike
    cases coerced : expandCoerced sql params inferred with
    | error other =>
      rw [coerced] at alike
      cases alike
      exact ⟨unbound, rfl, rfl⟩
    | ok expansion =>
      rw [coerced] at alike
      cases alike
  | ok direct =>
    left
    rw [plain] at alike
    cases coerced : expandCoerced sql params inferred with
    | error unbound =>
      rw [coerced] at alike
      cases alike
    | ok expansion =>
      rw [coerced] at alike
      have values : expansion.values = direct.values := (Except.ok.inj alike).symm
      obtain ⟨counted, positional⟩ := expand_filled plain
      obtain ⟨_, filling⟩ := expand_filled coerced
      refine ⟨direct, expansion, rfl, rfl, values, counted, positional, _, ?_, filling, ?_⟩
      · rw [List.length_mapIdx, values]
      · intro i value found
        rw [values, List.getElem?_mapIdx, found]
        exact ⟨_, rfl, coercedPlaceholder_written _ _ _⟩

example : expandCoerced "SELECT :a, :b::text, ':a'" ⟨[("a", .text "1"), ("b", .int 2)]⟩
    [some "int4", some "int4"] =
      .ok ⟨"SELECT CAST($1::TEXT AS int4), $2::text, ':a'", [.text "1", .int 2]⟩ := by
  decide +kernel

end NamedSql.CoercedExpansion
