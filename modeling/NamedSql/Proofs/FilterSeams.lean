import Mathlib.Data.List.Chain
import NamedSql.Proofs.FilterPredicate
import NamedSql.Proofs.NameScan
import NamedSql.Proofs.SinglePass

/-! Where a marker stands, the text of a predicate meets the text of the operation. If a placeholder
is begun before the marker, the predicate's column is read into its name; and what is written right
behind the marker is read into the name of the predicate's last placeholder. Where every marker keeps
clear of both, the placeholders are those of the operation and those of the predicate. -/
namespace NamedSql.FilterSeams
open Sql VerbatimBoundaries StatementParts MarkerSplicing SinglePass FilterPredicate BoundValues
open ReferenceBinding NameScan

theorem names_uncoloned {s : List Char} (plain : ':' ∉ s) (rest : List (Option Char)) :
    names .plain (s.map some ++ rest) = names .plain rest := by
  induction s with
  | nil => rfl
  | cons c s ih =>
    rw [List.mem_cons, not_or] at plain
    have same : Mode.next .plain (some c) = .plain := if_neg (Ne.symm plain.1)
    rw [List.map_cons, List.cons_append, names_cons, same, ih plain.2]
    rfl

/-- The name of the one value that most comparisons bind. -/
private def valueName : List Char := ['f', 'i', 'l', 't', 'e', 'r', 'V', 'a', 'l', 'u', 'e']

private theorem names_bound {words name : List Char} {rest : List (Option Char)}
    (plain : ':' ∉ words) (bound : name ∈ [valueName, valueName ++ ['A'], valueName ++ ['B']])
    (stops : Stops rest) :
    names .plain ((words ++ ':' :: name).map some ++ rest) =
      String.ofList name :: names .plain rest := by
  have named : ∀ n ∈ [valueName, valueName ++ ['A'], valueName ++ ['B']],
      n.head?.any isNameStart = true ∧ ∀ c ∈ n, isNameChar c = true := by
    simp [valueName, isNameStart, isNameChar]
  obtain ⟨start, chars⟩ := named name bound
  rw [List.map_append, List.append_assoc, names_uncoloned plain]
  cases name with
  | nil => cases start
  | cons c name => exact names_placeholder start (List.forall_mem_cons.mp chars).2 stops

private theorem comparisonText_single {operator : Filter.Operator}
    (single : boundNames operator = ["filterValue"]) :
    ∃ words, ':' ∉ words ∧ (comparisonText operator).toList = words ++ ':' :: valueName := by
  refine ⟨(comparisonText operator).toList.takeWhile (· ≠ ':'), ?_⟩
  cases operator with
  | present | between => simp [boundNames] at single
  | contains | equals | startsWith | ne | gt | gte | lt | lte => decide

private theorem comparisonText_between : (comparisonText .between).toList =
    [' ', 'B', 'E', 'T', 'W', 'E', 'E', 'N', ' '] ++ ':' :: (valueName ++ ['A']) ++
      ([' ', 'A', 'N', 'D', ' '] ++ ':' :: (valueName ++ ['B'])) := by
  decide

/-- A comparison has the placeholders that its filter binds. -/
theorem names_comparison {column : List Char} (plain : ':' ∉ column) (operator : Filter.Operator)
    {rest : List (Option Char)} (stops : Stops rest) :
    names .plain ((column ++ (comparisonText operator).toList).map some ++ rest) =
      boundNames operator ++ names .plain rest := by
  rw [List.map_append, List.append_assoc, names_uncoloned plain]
  by_cases single : boundNames operator = ["filterValue"]
  · obtain ⟨words, quiet, written⟩ := comparisonText_single single
    rw [written, names_bound quiet (by decide) stops, single]
    rfl
  · cases operator with
    | present =>
      have words : ':' ∉ (comparisonText .present).toList := by decide
      exact names_uncoloned words rest
    | between =>
      rw [comparisonText_between, List.map_append, List.append_assoc,
        names_bound (by decide) (by decide), names_bound (by decide) (by decide) stops]
      · rfl
      · rintro c ⟨⟩
        decide
    | contains | equals | startsWith | ne | gt | gte | lt | lte => exact absurd rfl single

/-- The predicate of a filter has the placeholders that the filter binds. -/
theorem names_filterText {filter : Option (String × Filter.Operator)} (valid : NamesColumn filter)
    {rest : List (Option Char)} (stops : Stops rest) :
    names .plain ((filterText filter).toList.map some ++ rest) =
      filterBound filter ++ names .plain rest := by
  cases filter with
  | none =>
    have plain : ':' ∉ (filterText none).toList := by decide
    exact names_uncoloned plain rest
  | some choice =>
    obtain ⟨column, operator⟩ := choice
    rw [filterText, String.toList_append]
    exact names_comparison (columnName_uncoloned (valid column operator rfl)) operator stops

/-- A text in which nothing begins has no other symbols than its characters. -/
theorem symbols_quiet {s : List Char} (quiet : ∀ c ∈ s, c ∉ activeChars) :
    symbols s = s.map some := by
  induction s with
  | nil => exact symbols_nil
  | cons c s ih =>
    obtain ⟨first, later⟩ := List.forall_mem_cons.mp quiet
    simp only [activeChars, List.mem_cons, not_or] at first
    rw [symbols_other (by simp [opens, first]), ih later, List.map_cons]

theorem placeholderNames_filterText {filter : Option (String × Filter.Operator)}
    (valid : NamesColumn filter) : placeholderNames (filterText filter).toList = filterBound filter := by
  have ends : Stops [] := by rintro c ⟨⟩
  have read := names_filterText valid ends
  rw [← names_symbols, symbols_quiet (filterText_inert valid).quiet]
  simpa [names, endedAmong, after, Mode.ended] using read

/-- Whether a part is a marker. -/
def isMarker : Part → Bool
  | .reference name => isMarkerName name
  | _ => false

/-- The symbols of a part of the raw text when it has been prepared. -/
def preparedSymbols (predicate : List Char) (part : Part) : List (Option Char) :=
  if isMarker part then predicate.map some else partSymbols part

theorem symbols_singlePass {p : List Char} (inert : Inert p) (s : List Char) :
    symbols (singlePass p s) = (parts s).flatMap (preparedSymbols p) := by
  have prepared (part : Part) : (splicedPart p part).flatMap partSymbols = preparedSymbols p part := by
    cases part with
    | verbatim _ | other _ => rfl
    | reference name =>
      rw [splicedPart, preparedSymbols, isMarker]
      cases spelled : isMarkerName name with
      | true => rw [if_pos rfl, if_pos rfl, List.flatMap_map, List.map_eq_flatMap]; rfl
      | false => simp
  rw [← rewritten_spliced inert]
  refine (symbols_rewritten (spliced p s)).trans ?_
  rw [parts_spliced inert, List.flatMap_assoc]
  exact congrArg (List.flatMap · (parts s)) (funext prepared)

/-- Whether a part may be read into the name of a placeholder that is written before it. -/
def continuesName : Part → Bool
  | .reference name => isMarkerName name
  | .other c => isNameChar c
  | .verbatim _ => false

/-- Whether a part may leave a placeholder begun that what is written behind it is read into. -/
def beginsName : Part → Bool
  | .reference _ => true
  | .other c => c == ':' || isNameChar c
  | .verbatim _ => false

/-- Whether neither of two neighbours is a marker that the other one could run into. -/
def Clear (before behind : Part) : Prop :=
  (isMarker before = true → continuesName behind = false) ∧
    (isMarker behind = true → beginsName before = false)

instance (before behind : Part) : Decidable (Clear before behind) :=
  inferInstanceAs (Decidable (_ ∧ _))

private theorem after_unbegun {part : Part} (unbegun : beginsName part = false) (mode : Mode) :
    after mode (partSymbols part) = .plain := by
  cases part with
  | verbatim text => cases mode <;> rfl
  | reference name => cases unbegun
  | other c =>
    simp only [beginsName, Bool.or_eq_false_iff, beq_eq_false_iff_ne] at unbegun
    obtain ⟨plain, unnamed⟩ := unbegun
    have unstarted : isNameStart c = false := by
      rw [← Bool.not_eq_true] at unnamed ⊢
      exact fun start => unnamed (StatementPieces.isNameChar_of_start start)
    cases mode with
    | plain => exact if_neg plain
    | colon => exact if_neg (Bool.not_eq_true _ ▸ unstarted)
    | name taken =>
      change (if isNameChar c = true then _ else if c = ':' then Mode.colon else Mode.plain) = _
      rw [if_neg (Bool.not_eq_true _ ▸ unnamed), if_neg plain]

private theorem stops_prepared (p : List Char) {rest : List Part}
    (apart : ∀ part ∈ rest.head?, continuesName part = false) :
    Stops (rest.flatMap (preparedSymbols p)) := by
  cases rest with
  | nil => rintro c ⟨⟩
  | cons part rest =>
    have first := apart part rfl
    cases part with
    | verbatim text => rintro c ⟨⟩
    | other d =>
      rintro c ⟨⟩
      exact first
    | reference name =>
      have unmarked : isMarkerName name = false := first
      intro c begins
      simp [preparedSymbols, isMarker, unmarked, partSymbols] at begins
      rw [← begins]
      decide

/-- Where all markers keep clear of names, a filter adds the names that it binds and no others. -/
theorem mem_names_prepared {filter : Option (String × Filter.Operator)} (valid : NamesColumn filter)
    {parts : List Part} (clear : parts.IsChain Clear) {mode : Mode}
    (fresh : ∀ part ∈ parts.head?, isMarker part = true → mode = .plain) (name : String) :
    name ∈ names mode (parts.flatMap (preparedSymbols (filterText filter).toList)) ↔
      name ∈ names mode (parts.flatMap (preparedSymbols (filterText none).toList)) ∨
        (name ∈ filterBound filter ∧ parts.any isMarker = true) := by
  -- The mode is what has been read before the parts. It is the same with and without the filter:
  -- names are pending in front of no marker, and behind one only the filter's own, which ends there.
  induction parts generalizing mode with
  | nil => simp
  | cons part rest ih =>
    obtain ⟨next, later⟩ := List.isChain_cons.mp clear
    rw [List.flatMap_cons, List.flatMap_cons, List.any_cons]
    cases marked : isMarker part with
    | true =>
      obtain rfl := fresh part rfl marked
      have apart : ∀ behind ∈ rest.head?, continuesName behind = false :=
        fun behind first => (next behind first).1 marked
      have unfiltered : NamesColumn none := by rintro column operator ⟨⟩
      have plain : ∀ behind ∈ rest.head?, isMarker behind = true → Mode.plain = .plain :=
        fun _ _ _ => rfl
      simp only [preparedSymbols, marked, if_true]
      rw [names_filterText valid (stops_prepared _ apart),
        names_filterText unfiltered (stops_prepared _ apart), List.mem_append, ih later plain]
      simp only [filterBound, List.nil_append, Bool.true_or, and_true]
      tauto
    | false =>
      have unbegun : ∀ behind ∈ rest.head?, isMarker behind = true →
          after mode (partSymbols part) = .plain :=
        fun behind first marker => after_unbegun ((next behind first).2 marker) mode
      simp only [preparedSymbols, marked, Bool.false_eq_true, if_false, Bool.false_or]
      rw [names_append, names_append, List.mem_append, List.mem_append, ih later unbegun]
      tauto

/-- The placeholders of a query that is prepared with a filter. -/
theorem mem_placeholderNames_prepared {filter : Option (String × Filter.Operator)}
    (valid : NamesColumn filter) {s : List Char} (clear : (parts s).IsChain Clear) (name : String) :
    name ∈ placeholderNames (singlePass (filterText filter).toList s) ↔
      name ∈ placeholderNames (singlePass (filterText none).toList s) ∨
        (name ∈ filterBound filter ∧ (parts s).any isMarker = true) := by
  have unfiltered : NamesColumn none := by rintro column operator ⟨⟩
  rw [← names_symbols, ← names_symbols, symbols_singlePass (filterText_inert valid),
    symbols_singlePass (filterText_inert unfiltered)]
  exact mem_names_prepared valid clear (fun _ _ _ => rfl) name

private theorem marked_cons (c : Char) {s : List Char} (marked : (cutAtMarkers s).2 ≠ []) :
    (cutAtMarkers (c :: s)).2 ≠ [] := by
  cases begins : beginsWithMarker (c :: s) with
  | true => simp [cutAtMarkers, begins]
  | false =>
    rw [cutAtMarkers_cons begins]
    exact marked

private theorem marked_append (front : List Char) {s : List Char} (marked : (cutAtMarkers s).2 ≠ []) :
    (cutAtMarkers (front ++ s)).2 ≠ [] := by
  induction front with
  | nil => exact marked
  | cons c front ih => exact marked_cons c ih

private theorem marked_of_part {s : List Char} (part : (parts s).any isMarker = true) :
    (cutAtMarkers s).2 ≠ [] := by
  induction s using parts_induction with
  | nil => simp at part
  | verbatim s text rest found ih =>
    rw [parts_verbatim found] at part
    rw [← verbatim?_append found]
    exact marked_append text (ih part)
  | reference name rest named ih =>
    rw [parts_reference named, List.any_cons, Bool.or_eq_true] at part
    rcases part with marker | later
    · have begins := beginsWithMarker_iff.mpr ⟨name, rest, marker, rfl⟩
      simp [cutAtMarkers, begins]
    · have behind := marked_append ('\x7b' :: (name ++ ['\x7d'])) (ih later)
      simpa using behind
  | other c rest closed unreferenced ih =>
    rw [parts_other closed unreferenced] at part
    exact marked_cons c (ih part)

/-- A marker outside literals and comments is a marker of the text. -/
theorem hasMarker_of_part {sql : String} (part : (parts sql.toList).any isMarker = true) :
    hasMarker sql = true :=
  decide_eq_true (List.length_pos_iff.mpr (marked_of_part part))

end NamedSql.FilterSeams
