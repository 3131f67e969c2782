import Mathlib
import NamedSql.Sql.Marker
import NamedSql.Proofs.StatementParts

/-! Replacing the filter marker commutes with reading the statement. The markers are replaced in the
raw text, inside literals and comments too, and only then is the text read; a replacement that is
inert leaves every literal, comment and reference of the raw text where it was. -/
namespace NamedSql.MarkerSplicing
open Sql VerbatimBoundaries StatementParts

/-- The name between the braces of the marker, in any case of its letters. -/
def isMarkerName (name : List Char) : Bool :=
  name.map Char.toLower == ['f', 'i', 'l', 't', 'e', 'r', 'b', 'y']

private theorem isNameChar_of_upper {c : Char} (upper : c.isUpper = true) :
    isNameChar c.toLower = true ∧ isNameChar c = true := by
  have letter : c.isAlpha = true := by simp [Char.isAlpha, upper]
  have lowered : c.toLower.isAlpha = true := by rw [Char.isAlpha_toLower_eq_isAlpha, letter]
  exact ⟨by simp [isNameChar, Char.isAlphanum, lowered], by simp [isNameChar, Char.isAlphanum, letter]⟩

private theorem isNameChar_toLower (c : Char) : isNameChar c.toLower = isNameChar c := by
  by_cases upper : c.isUpper = true
  · obtain ⟨lowered, named⟩ := isNameChar_of_upper upper
    rw [lowered, named]
  · rw [Char.toLower_eq_of_not_isUpper upper]

private theorem eq_of_toLower {c d : Char} (same : c.toLower = d) (unnamed : isNameChar d = false) :
    c = d := by
  by_cases upper : c.isUpper = true
  · rw [← same, (isNameChar_of_upper upper).1] at unnamed
    cases unnamed
  · rw [← same, Char.toLower_eq_of_not_isUpper upper]

theorem markerName_isName {name : List Char} (named : isMarkerName name = true) : IsName name := by
  rw [isMarkerName, beq_iff_eq] at named
  refine ⟨?_, ?_⟩
  · rintro rfl
    cases named
  · intro c member
    have lowered : c.toLower ∈ name.map Char.toLower := List.mem_map_of_mem member
    rw [named] at lowered
    rw [← isNameChar_toLower]
    have letters : ∀ d ∈ ['f', 'i', 'l', 't', 'e', 'r', 'b', 'y'], isNameChar d = true := by
      simp [isNameChar]
    exact letters _ lowered

theorem markerName_length {name : List Char} (named : isMarkerName name = true) :
    name.length = 8 := by
  rw [isMarkerName, beq_iff_eq] at named
  simpa using congrArg List.length named

theorem markerName_drop {name : List Char} (named : isMarkerName name = true) (rest : List Char) :
    (name ++ '\x7d' :: rest).drop (marker.length - 1) = rest := by
  simp [marker, List.drop_append, markerName_length named]

/-- A text begins with the marker when it begins with a reference of the marker's name. -/
theorem beginsWithMarker_iff {s : List Char} : beginsWithMarker s = true ↔
    ∃ name rest, isMarkerName name = true ∧ s = '\x7b' :: (name ++ '\x7d' :: rest) := by
  have spelled : marker.map Char.toLower =
      '\x7b' :: (['f', 'i', 'l', 't', 'e', 'r', 'b', 'y'] ++ ['\x7d']) := by decide
  rw [beginsWithMarker, beq_iff_eq, spelled]
  constructor
  · intro same
    obtain ⟨brace, tail, taken, opening, same⟩ := List.map_eq_cons_iff.mp same
    obtain ⟨name, last, rfl, named, same⟩ := List.map_eq_append_iff.mp same
    obtain ⟨closing, none, rfl, closed, same⟩ := List.map_eq_cons_iff.mp same
    rw [List.map_eq_nil_iff] at same
    subst same
    refine ⟨name, s.drop marker.length, by simp [isMarkerName, named], ?_⟩
    rw [← eq_of_toLower opening (by decide), ← eq_of_toLower closed (by decide)]
    have whole := List.take_append_drop marker.length s
    rw [taken] at whole
    simpa using whole.symm
  · rintro ⟨name, rest, named, rfl⟩
    have length := markerName_length named
    rw [isMarkerName, beq_iff_eq] at named
    have taken : ('\x7b' :: (name ++ '\x7d' :: rest)).take marker.length =
        '\x7b' :: (name ++ ['\x7d']) := by
      simp [marker, List.take_append, length, List.take_of_length_le]
    rw [taken]
    simp [named]

theorem beginsWithMarker_append {s : List Char} (rest : List Char)
    (begins : beginsWithMarker s = true) : beginsWithMarker (s ++ rest) = true := by
  obtain ⟨name, tail, named, rfl⟩ := beginsWithMarker_iff.mp begins
  exact beginsWithMarker_iff.mpr ⟨name, tail ++ rest, named, by simp⟩

private theorem unmarked_of_ne {c : Char} {s : List Char} (different : c ≠ '\x7b') :
    beginsWithMarker (c :: s) = false := by
  rw [← Bool.not_eq_true, beginsWithMarker_iff]
  rintro ⟨name, rest, named, same⟩
  cases same
  exact different rfl

private theorem reference?_of_marker {c : Char} {s : List Char}
    (begins : beginsWithMarker (c :: s) = true) :
    c = '\x7b' ∧ ∃ name rest, isMarkerName name = true ∧
      Part.reference? s = some (.reference name, rest) := by
  obtain ⟨name, rest, spelled, same⟩ := beginsWithMarker_iff.mp begins
  rw [List.cons.injEq] at same
  exact ⟨same.1, name, rest, spelled,
    reference?_eq_some.mpr ⟨name, markerName_isName spelled, same.2, rfl⟩⟩

/-- A reference is the marker when its name is. -/
theorem beginsWithMarker_reference {name : List Char} (named : IsName name) (rest : List Char) :
    beginsWithMarker ('\x7b' :: (name ++ '\x7d' :: rest)) = isMarkerName name := by
  apply Bool.eq_iff_iff.mpr
  constructor
  · intro begins
    obtain ⟨_, other, _, spelled, read⟩ := reference?_of_marker begins
    rw [reference?_eq_some.mpr ⟨name, named, rfl, rfl⟩] at read
    cases read
    exact spelled
  · intro spelled
    exact beginsWithMarker_iff.mpr ⟨name, rest, spelled, rfl⟩

/-- Where no reference begins, no marker does. -/
theorem unmarked_of_unreferenced {c : Char} {s : List Char}
    (unreferenced : c = '\x7b' → Part.reference? s = none) : beginsWithMarker (c :: s) = false := by
  rw [← Bool.not_eq_true]
  intro begins
  obtain ⟨brace, name, tail, _, read⟩ := reference?_of_marker begins
  rw [unreferenced brace] at read
  cases read

/-- The text with `replacement` in the place of every marker. -/
def spliced (replacement s : List Char) : List Char :=
  (cutAtMarkers s).1 ++ (cutAtMarkers s).2.flatMap (replacement ++ ·)

theorem replaceMarkers_eq_spliced (sql replacement : String) :
    replaceMarkers sql replacement = String.ofList (spliced replacement.toList sql.toList) := rfl

variable {p : List Char}

@[simp] theorem spliced_nil : spliced p [] = [] := by
  simp [spliced, cutAtMarkers]

theorem spliced_marker {name : List Char} (named : isMarkerName name = true) (s : List Char) :
    spliced p ('\x7b' :: (name ++ '\x7d' :: s)) = p ++ spliced p s := by
  have begins := beginsWithMarker_iff.mpr ⟨name, s, named, rfl⟩
  simp [spliced, cutAtMarkers, begins, markerName_drop named]

theorem spliced_cons {c : Char} {s : List Char} (unmarked : beginsWithMarker (c :: s) = false) :
    spliced p (c :: s) = c :: spliced p s := by
  simp [spliced, cutAtMarkers, unmarked]

theorem spliced_plain {c : Char} (different : c ≠ '\x7b') (s : List Char) :
    spliced p (c :: s) = c :: spliced p s :=
  spliced_cons (unmarked_of_ne different)

theorem spliced_append {s : List Char} (unbraced : '\x7b' ∉ s) (rest : List Char) :
    spliced p (s ++ rest) = s ++ spliced p rest := by
  induction s with
  | nil => rfl
  | cons c s ih =>
    simp only [List.mem_cons, not_or] at unbraced
    rw [List.cons_append, spliced_plain (Ne.symm unbraced.1), ih unbraced.2,
      List.cons_append]

/-- Reading a text marker by marker. -/
theorem marker_induction {motive : List Char → Prop} (nil : motive [])
    (marker : ∀ name rest, isMarkerName name = true → motive rest →
      motive ('\x7b' :: (name ++ '\x7d' :: rest)))
    (plain : ∀ c rest, beginsWithMarker (c :: rest) = false → motive rest → motive (c :: rest)) :
    ∀ s, motive s := by
  intro s
  induction length : s.length using Nat.strongRecOn generalizing s with
  | ind n ih =>
    subst length
    cases s with
    | nil => exact nil
    | cons c s =>
      by_cases begins : beginsWithMarker (c :: s) = true
      · obtain ⟨name, rest, named, same⟩ := beginsWithMarker_iff.mp begins
        rw [same] at ih ⊢
        exact marker _ _ named (ih _ (by simp; omega) _ rfl)
      · exact plain _ _ (Bool.not_eq_true _ ▸ begins) (ih _ (by simp) _ rfl)

/-- The characters that can open or close a literal, a comment or a reference. -/
def activeChars : List Char := ['\'', '"', '-', '/', '*', '\n', '\x7b', '\x7d']

theorem nameChar_passive {c : Char} (named : isNameChar c = true) : c ∉ activeChars := by
  intro active
  have unnamed : ∀ d ∈ activeChars, isNameChar d = false := by simp [activeChars, isNameChar]
  rw [unnamed c active] at named
  cases named

/-- A replacement that no reader of statements can take for anything but plain characters: none of
them is active, and they are not a name. -/
structure Inert (p : List Char) : Prop where
  quiet : ∀ c ∈ p, c ∉ activeChars
  unnamed : ∃ c ∈ p, isNameChar c = false

theorem Inert.not_mem (inert : Inert p) {c : Char} (active : c ∈ activeChars) : c ∉ p :=
  fun member => inert.quiet c member active

theorem Inert.ne_nil (inert : Inert p) : p ≠ [] := by
  rintro rfl
  obtain ⟨c, member, _⟩ := inert.unnamed
  cases member

/-- An active character, a brace apart, follows in the spliced text where it followed before. -/
theorem head?_spliced (inert : Inert p) {c : Char} (active : c ∈ activeChars) (brace : c ≠ '\x7b')
    (s : List Char) : (spliced p s).head? = some c ↔ s.head? = some c := by
  cases s using marker_induction with
  | nil => simp
  | marker name s named _ =>
    rw [spliced_marker named]
    obtain ⟨d, p, rfl⟩ := List.exists_cons_of_ne_nil inert.ne_nil
    have quiet : d ≠ c := by
      rintro rfl
      exact inert.quiet d (by simp) active
    simp [quiet, Ne.symm brace]
  | plain d s unmarked _ => simp [spliced_cons unmarked]

theorem opens_spliced (inert : Inert p) (c : Char) (s : List Char) :
    opens c (spliced p s).head? = opens c s.head? := by
  have dash := head?_spliced inert (c := '-') (by decide) (by decide) s
  have star := head?_spliced inert (c := '*') (by decide) (by decide) s
  simp only [opens, Bool.beq_eq_decide_eq, dash, star]

private theorem spliced_cons_cut {c : Char} {s before after : List Char}
    (unmarked : beginsWithMarker (c :: s) = false) (cut : before ++ after = s) :
    spliced p (c :: before) = c :: spliced p before := by
  apply spliced_cons
  rw [← Bool.not_eq_true] at unmarked ⊢
  intro begins
  exact unmarked (by simpa [cut] using beginsWithMarker_append after begins)

private theorem marker_passive {name : List Char} (named : isMarkerName name = true) {c : Char}
    (unnamed : isNameChar c = false) (opening : c ≠ '\x7b') (closing : c ≠ '\x7d') :
    c ∉ '\x7b' :: (name ++ ['\x7d']) := by
  have outside : c ∉ name := by
    intro member
    rw [(markerName_isName named).2 c member] at unnamed
    cases unnamed
  simp [opening, closing, outside]

/-- A literal or line comment ends at the same place in the spliced text. -/
theorem through_spliced (inert : Inert p) {c : Char} (active : c ∈ activeChars)
    (opening : c ≠ '\x7b') (closing : c ≠ '\x7d') (s : List Char) :
    through c (spliced p s) = (spliced p (through c s).1, spliced p (through c s).2) := by
  have unnamed : isNameChar c = false := Bool.eq_false_iff.mpr fun named => nameChar_passive named active
  induction s using marker_induction with
  | nil => simp [through_nil]
  | marker name rest named ih =>
    have raw := through_of_absent (marker_passive named unnamed opening closing) rest
    simp only [List.cons_append, List.append_assoc, List.nil_append] at raw
    rw [raw, spliced_marker named, spliced_marker named, through_of_absent (inert.not_mem active), ih]
  | plain d rest unmarked ih =>
    rw [spliced_cons unmarked, through_cons, through_cons]
    split
    · rename_i same
      subst same
      rw [spliced_plain opening, spliced_nil]
    · rw [ih, spliced_cons_cut unmarked (through_append c rest)]

/-- So does a block comment: no star and slash meet across a marker. -/
theorem throughClose_spliced (inert : Inert p) (s : List Char) :
    throughClose (spliced p s) =
      (spliced p (throughClose s).1, spliced p (throughClose s).2) := by
  induction s using marker_induction with
  | nil => simp [throughClose]
  | marker name rest named ih =>
    have raw := throughClose_of_absent
      (marker_passive named (c := '*') (by decide) (by decide) (by decide)) rest
    simp only [List.cons_append, List.append_assoc, List.nil_append] at raw
    rw [raw, spliced_marker named, spliced_marker named,
      throughClose_of_absent (inert.not_mem (by decide)), ih]
  | plain d rest unmarked ih =>
    rw [spliced_cons unmarked]
    by_cases closes : d = '*' ∧ rest.head? = some '/'
    · obtain ⟨rfl, slash⟩ := closes
      cases rest with
      | nil => cases slash
      | cons e rest =>
        cases slash
        have single : spliced p ['*', '/'] = ['*', '/'] := by
          simpa using spliced_append (p := p) (s := ['*', '/']) (by decide) []
        rw [spliced_plain (by decide)]
        simp [throughClose, single]
    · have open_ : ¬(d = '*' ∧ (spliced p rest).head? = some '/') := by
        rwa [head?_spliced inert (by decide) (by decide)]
      rw [throughClose_cons closes, throughClose_cons open_, ih,
        spliced_cons_cut unmarked (throughClose_append rest)]

/-- **Splicing commutes with cutting off a literal or comment.** The spliced text begins with one
exactly where the raw text does, and what is cut off and what is left are spliced each by itself. -/
theorem verbatim?_spliced (inert : Inert p) (s : List Char) :
    verbatim? (spliced p s) = (verbatim? s).map fun cut => (spliced p cut.1, spliced p cut.2) := by
  cases s using marker_induction with
  | nil => simp
  | marker name rest named _ =>
    obtain ⟨d, p, rfl⟩ := List.exists_cons_of_ne_nil inert.ne_nil
    have quiet := inert.quiet d (by simp)
    have plain : opens d (p ++ spliced (d :: p) rest).head? = false := by
      simp only [activeChars, List.mem_cons, not_or] at quiet
      simp [opens, quiet]
    rw [spliced_marker named, List.cons_append, verbatim?_cons_none.mpr plain,
      verbatim?_cons_none.mpr (by simp [opens])]
    rfl
  | plain c rest unmarked _ =>
    rw [spliced_cons unmarked]
    by_cases closed : opens c rest.head? = false
    · rw [verbatim?_cons_none.mpr closed, verbatim?_cons_none.mpr (by rw [opens_spliced inert, closed])]
      rfl
    · simp only [opens, Bool.not_eq_false, Bool.or_eq_true, Bool.and_eq_true, beq_iff_eq] at closed
      rcases closed with ((rfl | rfl) | ⟨rfl, dash⟩) | ⟨rfl, star⟩
      · have inside := through_spliced inert (c := '\'') (by decide) (by decide) (by decide) rest
        simp [verbatim?, inside, spliced_plain]
      · have inside := through_spliced inert (c := '"') (by decide) (by decide) (by decide) rest
        simp [verbatim?, inside, spliced_plain]
      · obtain ⟨rest, rfl⟩ := List.head?_eq_some_iff.mp dash
        have inside := through_spliced inert (c := '\n') (by decide) (by decide) (by decide) rest
        simp [verbatim?, inside, spliced_plain]
      · obtain ⟨rest, rfl⟩ := List.head?_eq_some_iff.mp star
        simp [verbatim?, throughClose_spliced inert, spliced_plain]

private theorem Inert.append_ne (inert : Inert p) {name : List Char}
    (named : ∀ c ∈ name, isNameChar c = true) (s rest : List Char) :
    p ++ s ≠ name ++ '\x7d' :: rest := by
  intro same
  obtain ⟨c, member, unnamed⟩ := inert.unnamed
  have outside : ¬∀ d ∈ p, isNameChar d = true := by
    intro all
    rw [all c member] at unnamed
    cases unnamed
  rcases List.append_eq_append_iff.mp same with ⟨middle, rfl, _⟩ | ⟨middle, rfl, closing⟩
  · exact outside fun d inside => named d (List.mem_append_left _ inside)
  · cases middle with
    | nil => exact outside (by simpa using named)
    | cons d middle =>
      cases closing
      exact inert.not_mem (c := '\x7d') (by decide) (by simp)

/-- A name and a closing brace that stand in the spliced text stood there before. -/
theorem spliced_eq_name (inert : Inert p) {name s rest : List Char}
    (named : ∀ c ∈ name, isNameChar c = true) (same : spliced p s = name ++ '\x7d' :: rest) :
    ∃ raw, s = name ++ '\x7d' :: raw ∧ spliced p raw = rest := by
  induction name generalizing s with
  | nil =>
    cases s using marker_induction with
    | nil => rw [spliced_nil] at same; cases same
    | marker name tail spelled _ =>
      rw [spliced_marker spelled] at same
      exact absurd same (inert.append_ne named _ _)
    | plain c tail unmarked _ =>
      rw [spliced_cons unmarked] at same
      cases same
      exact ⟨tail, rfl, rfl⟩
  | cons d name ih =>
    cases s using marker_induction with
    | nil => rw [spliced_nil] at same; cases same
    | marker name tail spelled _ =>
      rw [spliced_marker spelled] at same
      exact absurd same (inert.append_ne named _ _)
    | plain c tail unmarked _ =>
      rw [spliced_cons unmarked, List.cons_append, List.cons.injEq] at same
      obtain ⟨rfl, same⟩ := same
      obtain ⟨raw, rfl, kept⟩ := ih (fun e member => named e (List.mem_cons_of_mem _ member)) same
      exact ⟨raw, rfl, kept⟩

private theorem name_unbraced {name : List Char} (named : ∀ c ∈ name, isNameChar c = true) :
    '\x7b' ∉ name := by
  intro member
  exact absurd (named _ member) (by decide)

/-- **Splicing commutes with reading a reference.** -/
theorem reference?_spliced (inert : Inert p) (s : List Char) :
    Part.reference? (spliced p s) =
      (Part.reference? s).map fun found => (found.1, spliced p found.2) := by
  apply Option.ext
  rintro ⟨part, rest⟩
  simp only [Option.map_eq_some_iff, Prod.mk.injEq, Prod.exists]
  constructor
  · intro found
    obtain ⟨name, named, same, rfl⟩ := reference?_eq_some.mp found
    obtain ⟨raw, rfl, rfl⟩ := spliced_eq_name inert named.2 same
    exact ⟨_, raw, reference?_eq_some.mpr ⟨name, named, rfl, rfl⟩, rfl, rfl⟩
  · rintro ⟨_, raw, found, rfl, rfl⟩
    obtain ⟨name, named, rfl, rfl⟩ := reference?_eq_some.mp found
    refine reference?_eq_some.mpr ⟨name, named, ?_, rfl⟩
    rw [spliced_append (name_unbraced named.2), spliced_plain (by decide)]

theorem unmarked_spliced (inert : Inert p) {c : Char} {s : List Char}
    (unmarked : beginsWithMarker (c :: s) = false) :
    beginsWithMarker (c :: spliced p s) = false := by
  rw [← Bool.not_eq_true] at unmarked ⊢
  intro begins
  obtain ⟨name, rest, spelled, same⟩ := beginsWithMarker_iff.mp begins
  rw [List.cons.injEq] at same
  obtain ⟨rfl, same⟩ := same
  obtain ⟨raw, rfl, _⟩ := spliced_eq_name inert (markerName_isName spelled).2 same
  exact unmarked (beginsWithMarker_iff.mpr ⟨name, raw, spelled, rfl⟩)

theorem cutAtMarkers_cons {c : Char} {s : List Char} (unmarked : beginsWithMarker (c :: s) = false) :
    cutAtMarkers (c :: s) = (c :: (cutAtMarkers s).1, (cutAtMarkers s).2) := by
  simp [cutAtMarkers, unmarked]

theorem cutAtMarkers_marker {name : List Char} (named : isMarkerName name = true) (s : List Char) :
    cutAtMarkers ('\x7b' :: (name ++ '\x7d' :: s)) =
      ([], (cutAtMarkers s).1 :: (cutAtMarkers s).2) := by
  have begins := beginsWithMarker_iff.mpr ⟨name, s, named, rfl⟩
  simp [cutAtMarkers, begins, markerName_drop named]

private theorem cutAtMarkers_append {s : List Char} (unbraced : '\x7b' ∉ s) (rest : List Char) :
    (cutAtMarkers (s ++ rest)).2 = (cutAtMarkers rest).2 := by
  induction s with
  | nil => rfl
  | cons c s ih =>
    simp only [List.mem_cons, not_or] at unbraced
    rw [List.cons_append, cutAtMarkers_cons (unmarked_of_ne (Ne.symm unbraced.1)), ih unbraced.2]

/-- No marker is left in the spliced text, and none has come about across a seam. -/
theorem no_marker_spliced (inert : Inert p) (s : List Char) : (cutAtMarkers (spliced p s)).2 = [] := by
  induction s using marker_induction with
  | nil => simp [cutAtMarkers]
  | marker name rest spelled ih =>
    rw [spliced_marker spelled, cutAtMarkers_append (inert.not_mem (by decide)), ih]
  | plain c rest unmarked ih =>
    rw [spliced_cons unmarked, cutAtMarkers_cons (unmarked_spliced inert unmarked), ih]

/-- What becomes of a part when the markers are replaced: the marker itself is read as plain
characters, one by one, and every other part stays the part it was. -/
def splicedPart (p : List Char) : Part → List Part
  | .verbatim text => [.verbatim (spliced p text)]
  | .reference name => if isMarkerName name then p.map .other else [.reference name]
  | .other c => [.other c]

theorem parts_quiet {s : List Char} (quiet : ∀ c ∈ s, c ∉ activeChars) (rest : List Char) :
    parts (s ++ rest) = s.map .other ++ parts rest := by
  induction s with
  | nil => rfl
  | cons c s ih =>
    have passive := quiet c (by simp)
    simp only [activeChars, List.mem_cons, not_or] at passive
    rw [List.cons_append, parts_other (by simp [opens, passive]) (fun brace => by simp [brace] at passive),
      ih fun d member => quiet d (List.mem_cons_of_mem _ member)]
    rfl

/-- **The spliced text is read part for part like the raw text.** -/
theorem parts_spliced (inert : Inert p) (s : List Char) :
    parts (spliced p s) = (parts s).flatMap (splicedPart p) := by
  induction s using parts_induction with
  | nil => simp
  | verbatim s text rest found ih =>
    have cut : verbatim? (spliced p s) = some (spliced p text, spliced p rest) := by
      rw [verbatim?_spliced inert, found]
      rfl
    rw [parts_verbatim cut, parts_verbatim found, ih]
    rfl
  | reference name rest named ih =>
    rw [parts_reference named, List.flatMap_cons, splicedPart]
    split
    · rename_i spelled
      rw [spliced_marker spelled, parts_quiet inert.quiet, ih]
    · rename_i spelled
      have unmarked := beginsWithMarker_reference named rest
      rw [eq_false_of_ne_true spelled] at unmarked
      rw [spliced_cons unmarked, spliced_append (name_unbraced named.2), spliced_plain (by decide),
        parts_reference named, ih]
      rfl
  | other c rest closed unreferenced ih =>
    have still : c = '\x7b' → Part.reference? (spliced p rest) = none := by
      intro brace
      rw [reference?_spliced inert, unreferenced brace]
      rfl
    rw [spliced_cons (unmarked_of_unreferenced unreferenced),
      parts_other (by rw [opens_spliced inert, closed]) still,
      parts_other closed unreferenced, ih]
    rfl

private theorem references_splicedPart (part : Part) :
    (splicedPart p part).filterMap referenceName? =
      (referenceName? part).toList.filter fun name => !isMarkerName name.toList := by
  cases part with
  | verbatim text => rfl
  | other c => rfl
  | reference name =>
    by_cases spelled : isMarkerName name = true
    · simp [splicedPart, referenceName?, spelled]
    · simp [splicedPart, referenceName?, spelled]

/-- Splicing takes the markers out of the references and adds none. -/
theorem references_replaceMarkers {predicate : String} (inert : Inert predicate.toList)
    (sql : String) : references (replaceMarkers sql predicate) =
      (references sql).filter fun name => !isMarkerName name.toList := by
  rw [replaceMarkers_eq_spliced, references_eq, references_eq, String.toList_ofList,
    parts_spliced inert]
  induction parts sql.toList with
  | nil => rfl
  | cons part rest ih =>
    rw [List.flatMap_cons, List.filterMap_append, ih, references_splicedPart, List.filterMap_cons]
    cases referenceName? part with
    | none => rfl
    | some name => by_cases marks : isMarkerName name.toList = true <;> simp [marks]

end NamedSql.MarkerSplicing
