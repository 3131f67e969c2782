import NamedSql.Proofs.FilterGate
import NamedSql.Proofs.FilterPredicate

/-! A text is divided by its markers in one way only. The cut is made from the left, but two markers
never overlap, since a marker has no brace but at its ends; so where the cut stops is where a marker
stands, whoever looks for it. Replacing the markers joins the segments again with the replacement, and
an inert replacement makes no marker with what is beside it. -/
namespace NamedSql.MarkerSegments
open Sql StatementParts MarkerSplicing FilterGate FilterPredicate NamedSql.Filter

/-- Whether a text is the marker, in any case of its letters. -/
def IsMarker (text : List Char) : Prop := text.map Char.toLower = marker.map Char.toLower

/-- Whether there is no marker in a text. -/
def Unmarked (s : List Char) : Prop := ∀ text, IsMarker text → ¬text <:+: s

/-- Whether a text is a first segment followed by markers with a segment behind each, where no segment
has a marker in it. -/
structure Divides (s first : List Char) (rest : List (List Char × List Char)) : Prop where
  whole : s = first ++ rest.flatMap fun cut => cut.1 ++ cut.2
  markers : ∀ cut ∈ rest, IsMarker cut.1
  unmarked : ∀ segment ∈ first :: rest.map Prod.snd, Unmarked segment

variable {s first : List Char} {rest : List (List Char × List Char)}

theorem isMarker_iff {text : List Char} :
    IsMarker text ↔ ∃ name, isMarkerName name = true ∧ text = '\x7b' :: (name ++ ['\x7d']) := by
  constructor
  · intro spelled
    have length : text.length = marker.length := by simpa using congrArg List.length spelled
    have begins : beginsWithMarker text = true := by
      rw [beginsWithMarker, ← length, List.take_length, beq_iff_eq]
      exact spelled
    obtain ⟨name, behind, named, rfl⟩ := beginsWithMarker_iff.mp begins
    have short : behind = [] := by
      have eight := markerName_length named
      rw [← List.length_eq_zero_iff]
      simp only [List.length_cons, List.length_append, marker, List.length_nil] at length
      omega
    exact ⟨name, named, by rw [short]⟩
  · rintro ⟨name, named, rfl⟩
    rw [isMarkerName, beq_iff_eq] at named
    rw [IsMarker, List.map_cons, List.map_append, named]
    decide

theorem beginsWithMarker_iff_prefix :
    beginsWithMarker s = true ↔ ∃ text, IsMarker text ∧ text <+: s := by
  constructor
  · intro begins
    obtain ⟨name, behind, named, rfl⟩ := beginsWithMarker_iff.mp begins
    exact ⟨_, isMarker_iff.mpr ⟨name, named, rfl⟩, behind, by simp⟩
  · rintro ⟨text, spelled, behind, rfl⟩
    obtain ⟨name, named, rfl⟩ := isMarker_iff.mp spelled
    exact beginsWithMarker_iff.mpr ⟨name, behind, named, by simp⟩

theorem unmarked_nil : Unmarked [] := by
  intro text spelled inside
  obtain ⟨name, _, rfl⟩ := isMarker_iff.mp spelled
  exact absurd (List.eq_nil_of_infix_nil inside) (List.cons_ne_nil _ _)

theorem unmarked_cons {c : Char} :
    Unmarked (c :: s) ↔ beginsWithMarker (c :: s) = false ∧ Unmarked s := by
  rw [← Bool.not_eq_true, beginsWithMarker_iff_prefix]
  constructor
  · intro clear
    refine ⟨?_, fun text spelled inside => clear text spelled (List.infix_cons inside)⟩
    rintro ⟨text, spelled, starts⟩
    exact clear text spelled starts.isInfix
  · rintro ⟨unbegun, later⟩ text spelled inside
    rcases List.infix_cons_iff.mp inside with starts | behind
    · exact unbegun ⟨text, spelled, starts⟩
    · exact later text spelled behind

/-- The markers that a text is divided by and what is behind them begin with a brace. -/
private theorem cuts_brace (markers : ∀ cut ∈ rest, IsMarker cut.1) {c : Char} {tail : List Char}
    (same : rest.flatMap (fun cut => cut.1 ++ cut.2) = c :: tail) : c = '\x7b' := by
  cases rest with
  | nil => cases same
  | cons cut rest =>
    obtain ⟨name, _, spelled⟩ := isMarker_iff.mp (markers cut (List.mem_cons_self ..))
    rw [List.flatMap_cons, spelled] at same
    exact (List.cons.inj same).1.symm

theorem divides_nil : Divides [] first rest ↔ first = [] ∧ rest = [] := by
  constructor
  · rintro ⟨whole, markers, _⟩
    obtain ⟨rfl, none⟩ := List.append_eq_nil_iff.mp whole.symm
    refine ⟨rfl, ?_⟩
    cases rest with
    | nil => rfl
    | cons cut rest =>
      obtain ⟨name, _, spelled⟩ := isMarker_iff.mp (markers cut (List.mem_cons_self ..))
      rw [List.flatMap_cons, spelled] at none
      cases none
  · rintro ⟨rfl, rfl⟩
    exact ⟨rfl, by simp, by simp [unmarked_nil]⟩

theorem divides_plain {c : Char} (unmarked : beginsWithMarker (c :: s) = false) :
    Divides (c :: s) first rest ↔ ∃ front, first = c :: front ∧ Divides s front rest := by
  constructor
  · rintro ⟨whole, markers, segments⟩
    cases first with
    | nil =>
      cases rest with
      | nil => cases whole
      | cons cut rest =>
        rw [List.nil_append, List.flatMap_cons, List.append_assoc] at whole
        have begins := beginsWithMarker_iff_prefix.mpr
          ⟨cut.1, markers cut (List.mem_cons_self ..), _, whole.symm⟩
        rw [unmarked] at begins
        cases begins
    | cons d front =>
      obtain ⟨rfl, tail⟩ := List.cons.inj whole
      obtain ⟨start, later⟩ := List.forall_mem_cons.mp segments
      exact ⟨front, rfl, tail, markers, List.forall_mem_cons.mpr ⟨(unmarked_cons.mp start).2, later⟩⟩
  · rintro ⟨front, rfl, whole, markers, segments⟩
    obtain ⟨start, later⟩ := List.forall_mem_cons.mp segments
    have clear : beginsWithMarker (c :: front) = false := by
      rw [← Bool.not_eq_true] at unmarked ⊢
      intro begins
      rw [whole] at unmarked
      exact unmarked (beginsWithMarker_append _ begins)
    refine ⟨?_, markers, List.forall_mem_cons.mpr ⟨unmarked_cons.mpr ⟨clear, start⟩, later⟩⟩
    rw [whole, List.cons_append]

/-- A segment does not reach into a marker: the marker would end in it or a brace stand in its name. -/
private theorem first_of_marker {name : List Char} (named : isMarkerName name = true)
    (divides : Divides ('\x7b' :: (name ++ '\x7d' :: s)) first rest) : first = [] := by
  obtain ⟨whole, markers, segments⟩ := divides
  have start := segments first (List.mem_cons_self ..)
  cases first with
  | nil => rfl
  | cons c front =>
    obtain ⟨rfl, tail⟩ := List.cons.inj whole
    -- The segment ends behind the name or within it, and there the next marker would begin.
    rcases List.append_eq_append_iff.mp tail with ⟨inside, rfl, behind⟩ | ⟨left, rfl, behind⟩
    · cases inside with
      | nil => exact absurd (cuts_brace markers behind.symm) (by decide)
      | cons d inside =>
        obtain ⟨rfl, _⟩ := List.cons.inj behind
        have begins := beginsWithMarker_iff.mpr ⟨name, inside, named, rfl⟩
        rw [(unmarked_cons.mp start).1] at begins
        cases begins
    · cases left with
      | nil => exact absurd (cuts_brace markers behind) (by decide)
      | cons d left =>
        obtain rfl := cuts_brace markers behind
        exact absurd ((markerName_isName named).2 '\x7b' (by simp)) (by decide)

theorem divides_marker {name : List Char} (named : isMarkerName name = true) :
    Divides ('\x7b' :: (name ++ '\x7d' :: s)) first rest ↔ first = [] ∧ ∃ segment later,
      rest = ('\x7b' :: (name ++ ['\x7d']), segment) :: later ∧ Divides s segment later := by
  constructor
  · intro divides
    obtain rfl := first_of_marker named divides
    obtain ⟨whole, markers, segments⟩ := divides
    refine ⟨rfl, ?_⟩
    cases rest with
    | nil => cases whole
    | cons cut later =>
      obtain ⟨text, segment⟩ := cut
      obtain ⟨spelled, behindMarkers⟩ := List.forall_mem_cons.mp markers
      obtain ⟨other, renamed, rfl⟩ := isMarker_iff.mp spelled
      have same : name ++ '\x7d' :: s =
          other ++ '\x7d' :: (segment ++ later.flatMap fun cut => cut.1 ++ cut.2) := by
        simpa using whole
      obtain ⟨rfl, behind⟩ := List.append_inj same
        (by rw [markerName_length named, markerName_length renamed])
      exact ⟨segment, later, rfl, (List.cons.inj behind).2, behindMarkers,
        (List.forall_mem_cons.mp segments).2⟩
  · rintro ⟨rfl, segment, later, rfl, whole, markers, segments⟩
    refine ⟨?_, List.forall_mem_cons.mpr ⟨isMarker_iff.mpr ⟨name, named, rfl⟩, markers⟩,
      List.forall_mem_cons.mpr ⟨unmarked_nil, segments⟩⟩
    simp [← whole]

/-- A text is divided by its markers in one way only. -/
theorem divides_iff (s : List Char) : ∃ rest, rest.map Prod.snd = (cutAtMarkers s).2 ∧
    ∀ front later, Divides s front later ↔ front = (cutAtMarkers s).1 ∧ later = rest := by
  -- The cut drops the markers as they are written, so these are found along with the segments.
  induction s using marker_induction with
  | nil => exact ⟨[], by simp [cutAtMarkers], fun _ _ => by simp [divides_nil, cutAtMarkers]⟩
  | marker name s named ih =>
    obtain ⟨rest, segments, divided⟩ := ih
    rw [cutAtMarkers_marker named]
    refine ⟨('\x7b' :: (name ++ ['\x7d']), (cutAtMarkers s).1) :: rest, by simp [segments], ?_⟩
    intro front later
    rw [divides_marker named]
    constructor
    · rintro ⟨rfl, segment, later, rfl, behind⟩
      obtain ⟨rfl, rfl⟩ := (divided _ _).mp behind
      exact ⟨rfl, rfl⟩
    · rintro ⟨rfl, rfl⟩
      exact ⟨rfl, _, _, rfl, (divided _ _).mpr ⟨rfl, rfl⟩⟩
  | plain c s unmarked ih =>
    obtain ⟨rest, segments, divided⟩ := ih
    rw [cutAtMarkers_cons unmarked]
    refine ⟨rest, segments, fun front later => ?_⟩
    rw [divides_plain unmarked]
    constructor
    · rintro ⟨front, rfl, behind⟩
      obtain ⟨rfl, rfl⟩ := (divided _ _).mp behind
      exact ⟨rfl, rfl⟩
    · rintro ⟨rfl, rfl⟩
      exact ⟨_, rfl, (divided _ _).mpr ⟨rfl, rfl⟩⟩

theorem unmarked_iff : Unmarked s ↔ (cutAtMarkers s).2 = [] := by
  induction s using marker_induction with
  | nil => simp [unmarked_nil, cutAtMarkers]
  | marker name s named _ =>
    have begins := beginsWithMarker_iff.mpr ⟨name, s, named, rfl⟩
    simp [unmarked_cons, begins, cutAtMarkers_marker named]
  | plain c s unmarked ih =>
    rw [unmarked_cons, cutAtMarkers_cons unmarked, ← ih, and_iff_right unmarked]

theorem intercalate_cons (p first : List Char) (segments : List (List Char)) :
    p.intercalate (first :: segments) = first ++ segments.flatMap (p ++ ·) := by
  induction segments generalizing first with
  | nil => simp [List.intercalate]
  | cons segment segments ih =>
    rw [List.intercalate_cons_cons, ih, List.flatMap_cons, List.append_assoc, List.append_assoc]

variable {sql : String} {columns : List String}

/-- Whatever the replacement is, it stands between the segments. -/
theorem replaceMarkers_eq_intercalate (divides : Divides sql.toList first rest) (replacement : String) :
    replaceMarkers sql replacement =
      String.ofList (replacement.toList.intercalate (first :: rest.map Prod.snd)) := by
  obtain ⟨cuts, segments, divided⟩ := divides_iff sql.toList
  obtain ⟨rfl, rfl⟩ := (divided _ _).mp divides
  rw [replaceMarkers_eq_spliced, spliced, segments, intercalate_cons]

/-- Whether a text is a template that has the replacement in the place of each of its markers. -/
def Splices (sql replacement text : String) : Prop :=
  ∃ first rest, Divides sql.toList first rest ∧
    text = String.ofList (replacement.toList.intercalate (first :: rest.map Prod.snd))

theorem replaceMarkers_splices (sql replacement : String) :
    Splices sql replacement (replaceMarkers sql replacement) := by
  obtain ⟨rest, _, divided⟩ := divides_iff sql.toList
  have divides := (divided _ rest).mpr ⟨rfl, rfl⟩
  exact ⟨_, rest, divides, replaceMarkers_eq_intercalate divides replacement⟩

theorem hasMarker_iff : hasMarker sql = true ↔ ∃ text, IsMarker text ∧ text <:+: sql.toList := by
  have clear : hasMarker sql = false ↔ Unmarked sql.toList := by
    rw [unmarked_iff, hasMarker, decide_eq_false_iff_not, Nat.pos_iff_ne_zero, not_not,
      ← List.length_eq_zero_iff]
    rfl
  rw [← Bool.not_eq_false, clear]
  simp [Unmarked]

/-- Where there is no marker, nothing is replaced. -/
theorem replaceMarkers_unmarked (unmarked : Unmarked sql.toList) (replacement : String) :
    replaceMarkers sql replacement = sql := by
  have divides : Divides sql.toList sql.toList [] := ⟨by simp, by simp, by simpa using unmarked⟩
  rw [replaceMarkers_eq_intercalate divides, List.map_nil, List.intercalate_singleton,
    String.ofList_toList]

/-- Whether a query has no marker left, so that compiling it again changes and binds nothing. -/
structure Filled (query : String) : Prop where
  unmarked : Unmarked query.toList
  final : ∀ fields columns binding, compile query fields columns binding = ⟨query, Record.empty⟩

theorem filled_of_unmarked (unmarked : Unmarked sql.toList) : Filled sql := by
  refine ⟨unmarked, fun fields columns binding => ?_⟩
  have none : hasMarker sql = false := by
    rw [← Bool.not_eq_true, hasMarker_iff]
    rintro ⟨text, spelled, inside⟩
    exact unmarked text spelled inside
  unfold compile
  split
  · rw [replaceMarkers_unmarked unmarked]
  · simp only [replaceMarkers_unmarked unmarked, none, Bool.false_eq_true, if_false]

theorem replaceMarkers_filled {predicate : String} (inert : Inert predicate.toList) (sql : String) :
    Filled (replaceMarkers sql predicate) := by
  apply filled_of_unmarked
  rw [replaceMarkers_eq_spliced, String.toList_ofList, unmarked_iff]
  exact no_marker_spliced inert sql.toList

theorem compile_filled (named : ∀ column ∈ columns, Operation.isColumnName column = true)
    (sql : String) (fields : Option Fields) (binding : Binding) :
    Filled (compile sql fields columns binding).text := by
  unfold compile
  split
  · exact replaceMarkers_filled alwaysTrue_inert sql
  · rename_i spec chosen
    obtain ⟨given, _, accepted⟩ := Option.bind_eq_some_iff.mp chosen
    exact replaceMarkers_filled (predicate_inert (named _ (ofFields?_column accepted)) binding) sql

/-- **Markers are replaced by splicing.** The segments that the markers divide a template into are
decided by the template alone, and they are joined by the replacement as it is. A compiled query is
divided no further, whatever markers were nested or broken in the template. -/
theorem markers_spliced (sql : String) :
    (∃ first rest, (∀ front later, Divides sql.toList front later ↔ front = first ∧ later = rest) ∧
      rest.length = markerCount sql ∧ ∀ replacement : String, replaceMarkers sql replacement =
        String.ofList (replacement.toList.intercalate (first :: rest.map Prod.snd))) ∧
      (hasMarker sql = true ↔ 0 < markerCount sql) ∧
      (hasMarker sql = true ↔ ∃ text, IsMarker text ∧ text <:+: sql.toList) ∧
      ∀ columns, (∀ column ∈ columns, Operation.isColumnName column = true) →
        ∀ fields binding, Filled (compile sql fields columns binding).text := by
  obtain ⟨rest, segments, divided⟩ := divides_iff sql.toList
  have divides := (divided _ rest).mpr ⟨rfl, rfl⟩
  refine ⟨⟨_, rest, divided, ?_, replaceMarkers_eq_intercalate divides⟩, decide_eq_true_iff,
    hasMarker_iff, fun columns named => compile_filled named sql⟩
  rw [markerCount, ← segments, List.length_map]

/-- A template with a marker inside a broken one, and one in a literal. -/
def brokenTemplate : String := "SELECT \x7bfilter\x7bfilterBy\x7dBy\x7d, '\x7bFILTERBY\x7d'"

theorem brokenTemplate_filled : (∀ column ∈ ["By"], Operation.isColumnName column = true) ∧
    Filled (compile brokenTemplate (some ⟨some "By", some "EQUALS", some "\x7bfilterBy\x7d", none⟩)
      ["By"] .exact).text := by
  have named : ∀ column ∈ ["By"], Operation.isColumnName column = true := by decide
  exact ⟨named, (markers_spliced brokenTemplate).2.2.2 ["By"] named _ _⟩

end NamedSql.MarkerSegments
