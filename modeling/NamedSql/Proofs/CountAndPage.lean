import NamedSql.Operation.Run
import NamedSql.Proofs.AppendedClauses
import NamedSql.Proofs.StoreExpansion

/-! A listing counts the rows of its query and then asks for one page of them. What is put around the
query for the one and behind it for the other has no colon in it and continues no name, so both
statements have the placeholders of the query itself: they bind the same values, or fail for want of
the same name. -/
namespace NamedSql.CountAndPage
open Sql VerbatimBoundaries StatementPieces AppendedText AppendedClauses BoundValues StoreExpansion
open OperationRuns

theorem placeholderNames_uncoloned {s : List Char} (plain : ':' ∉ s) : placeholderNames s = [] := by
  refine List.filterMap_eq_nil_iff.mpr fun piece member => ?_
  cases piece with
  | placeholder name =>
    have inside : ':' ∈ (pieces s).flatMap Piece.text :=
      List.mem_flatMap.mpr ⟨_, member, List.mem_cons_self ..⟩
    rw [pieces_text] at inside
    exact absurd inside plain
  | verbatim _ | doubleColon | other _ => rfl

private theorem names_continued {behind : List Char} (plain : ':' ∉ behind) (ps : List Piece) :
    (continued behind ps).filterMap placeholderName? = ps.filterMap placeholderName? := by
  fun_induction continued behind ps with
  | case1 => exact placeholderNames_uncoloned plain
  | case2 text =>
    have left : ':' ∉ (takenBy text behind).2 := by
      intro member
      rw [← takenBy_append text behind] at plain
      exact plain (List.mem_append_right _ member)
    exact placeholderNames_uncoloned left
  | case3 piece rest _ ih => rw [List.filterMap_cons, List.filterMap_cons, ih]

/-- Text without a colon that continues no name adds no placeholder and changes none, whether or not
the statement before it is closed. -/
theorem placeholderNames_append (s : List Char) {behind : List Char}
    (fresh : startsAfresh behind.head? = true) (plain : ':' ∉ behind) :
    placeholderNames (s ++ behind) = placeholderNames s := by
  rw [placeholderNames, pieces_append s fresh, names_continued plain]
  rfl

theorem uncoloned_blanks {blanks : List Char} (blank : ∀ c ∈ blanks, Text.isBlank c = true) :
    ':' ∉ blanks := fun member => (blank_passive (blank ':' member)).2 (by decide)

/-- A query has the placeholders that it has when it is trimmed. -/
theorem placeholderNames_trimEnd (s : List Char) :
    placeholderNames (Text.trimEnd s) = placeholderNames s := by
  obtain ⟨blanks, whole, blank⟩ := trimEnd_append s
  have fresh : startsAfresh (blanks ++ []).head? = true := startsAfresh_blanks blank [] fun _ => rfl
  rw [List.append_nil] at fresh
  have same := placeholderNames_append (Text.trimEnd s) fresh (uncoloned_blanks blank)
  rw [← whole] at same
  exact same.symm

/-- The placeholders of a trimmed query with a gap and a clause behind it. -/
theorem placeholderNames_clause (s gap clause : List Char)
    (blank : ∀ c ∈ gap, Text.isBlank c = true) (fresh : gap = [] → startsAfresh clause.head? = true)
    (plain : ':' ∉ clause) :
    placeholderNames (Text.trimEnd s ++ (gap ++ clause)) = placeholderNames s := by
  have both : ':' ∉ gap ++ clause := by
    rw [List.mem_append, not_or]
    exact ⟨uncoloned_blanks blank, plain⟩
  rw [placeholderNames_append _ (startsAfresh_blanks blank clause fresh) both,
    placeholderNames_trimEnd]

theorem placeholderNames_counted (d : Dialect) (sql : String) :
    placeholderNames (d.counted sql).toList = placeholderNames sql.toList := by
  rw [counted_toList, placeholderNames, pieces_countHead, placeholders_others]
  exact placeholderNames_clause _ _ _ (by split <;> simp [Text.isBlank]) (fun _ => rfl) (by decide)

theorem placeholderNames_limited {d : Dialect} (windows : WritesWindows d) (sql : String)
    (limit offset : Int64) :
    placeholderNames (d.limited sql limit offset).toList = placeholderNames sql.toList := by
  obtain ⟨count, start, _, _, window⟩ := window_written windows limit offset
  have plain : ':' ∉ (d.window limit offset).toList := by
    rw [window]
    exact windowText_uncoloned count start
  rw [limited_toList]
  exact placeholderNames_clause _ _ _ (by split <;> simp [Text.isBlank]) (by rintro ⟨⟩) plain

/-- **The count and the page of a query bind what the query binds.** Once the rows have been counted,
no name is found unbound. -/
theorem count_and_page_bind_alike {d : Dialect} (windows : WritesWindows d) :
    (∀ (sql : String) (params : Params) (limit offset : Int64),
      (d.expand (d.counted sql) params).map Expansion.values =
          (d.expand sql params).map Expansion.values ∧
        (d.expand (d.limited sql limit offset) params).map Expansion.values =
          (d.expand sql params).map Expansion.values) ∧
      ∀ (σ : Type) (store : Store σ), store.dialect = d → ExpandsFirst store →
        ∀ (op : Operation) (request : Request) (prepared : Operation.Prepared) (state : σ)
          (total : Int64), op.prepare request = .ok prepared →
          ((store.count (d.counted prepared.statement.text) prepared.statement.params).run state).1 =
            .ok total →
          ∀ name, ((op.queryAll store request).run state).1 ≠ .error (.store (.unbound name)) := by
  have values (sql : String) (params : Params) (limit offset : Int64) :
      (d.expand (d.counted sql) params).map Expansion.values =
          (d.expand sql params).map Expansion.values ∧
        (d.expand (d.limited sql limit offset) params).map Expansion.values =
          (d.expand sql params).map Expansion.values := by
    rw [dialect_expand_values, dialect_expand_values, dialect_expand_values,
      placeholderNames_counted, placeholderNames_limited windows]
    exact ⟨rfl, rfl⟩
  refine ⟨values, ?_⟩
  rintro σ store rfl first op request prepared state total ready counted name failed
  obtain ⟨expansion, expanded⟩ := first.counted counted
  rw [queryAll_run ready] at failed
  generalize asked : (store.count _ _).run state = answer at failed counted
  obtain ⟨count, later⟩ := answer
  obtain rfl : count = .ok total := counted
  simp only at failed
  generalize paged : (store.rows _ _).run later = answer at failed
  obtain ⟨rows, last⟩ := answer
  cases rows with
  | ok entries => cases failed
  | error cause =>
    obtain rfl : cause = .unbound name := by simpa using failed
    have unbound := first.unbound (congrArg Prod.fst paged)
    have alike := values prepared.statement.text prepared.statement.params (op.page request).count
      (op.page request).start
    rw [expanded, unbound] at alike
    cases alike.1.trans alike.2.symm

/-- A listing of the notes. -/
def notesListing : Operation :=
  (Operation.listing "notes" "SELECT id, title FROM notes WHERE {filterBy} ORDER BY id").withFilter
    ["title"]

/-- A request for the notes with one title. -/
def equalTitleRequest : Request :=
  .ofPairs [("filterBy", "title"), ("filterOp", "equals"), ("filterValue", "ann")]

/-- What the request for one title is prepared to. -/
def titledNotes : Statement where
  text := "SELECT id, title FROM notes WHERE title = :filterValue ORDER BY id"
  params := ⟨[("filterValue", .text "ann")]⟩

theorem notesListing_bound :
    notesListing.prepare equalTitleRequest = .ok ⟨titledNotes, []⟩ ∧
      ((Sqlite.notes.count (Dialect.sqlite.counted titledNotes.text) titledNotes.params).run
        [⟨1, "ann"⟩, ⟨2, "bob"⟩]).1 = .ok 1 ∧
      (Dialect.sqlite.expand (Dialect.sqlite.limited titledNotes.text 16 0) titledNotes.params).map
          Expansion.values = .ok [.text "ann"] ∧
      ∀ name, ((notesListing.queryAll Sqlite.notes equalTitleRequest).run
        [⟨1, "ann"⟩, ⟨2, "bob"⟩]).1 ≠ .error (.store (.unbound name)) := by
  have ready : notesListing.prepare equalTitleRequest = .ok ⟨titledNotes, []⟩ := by decide +kernel
  have counted : ((Sqlite.notes.count (Dialect.sqlite.counted titledNotes.text)
      titledNotes.params).run [⟨1, "ann"⟩, ⟨2, "bob"⟩]).1 = .ok 1 := by decide +kernel
  have direct : (Dialect.sqlite.expand titledNotes.text titledNotes.params).map Expansion.values =
      .ok [.text "ann"] := by decide +kernel
  obtain ⟨values, bound⟩ := count_and_page_bind_alike (d := .sqlite) (Or.inr rfl)
  refine ⟨ready, counted, ?_, ?_⟩
  · rw [(values titledNotes.text titledNotes.params 16 0).2, direct]
  · exact bound _ Sqlite.notes rfl notes_expandsFirst _ _ _ _ _ ready counted

end NamedSql.CountAndPage
