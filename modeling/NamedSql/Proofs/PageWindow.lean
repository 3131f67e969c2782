import NamedSql.Proofs.RequestIntegers
import NamedSql.Proofs.StoreExchanges

/-! The window of a listing. Whatever a request asks for, the window begins at a row that there can be,
has at least one row and at most as many as the operation allows, and it is the same window in the
statement and in what the client is told. An integer is asked for as a number or as a text; where there is
neither, the window begins at the first row and is as long as is allowed. No dialect has anything left to raise to zero, so all write
the same clause, and a client that asks again for the window it was given gets it again. -/
namespace NamedSql.PageWindow
open Sql AppendedClauses OperationRuns StoreExchanges RequestIntegers

variable {op : Operation} {request : Request}

/-- The greatest page of an operation with a limit. -/
def greatest (limit : Int64) : Int := if 0 < limit.toInt then limit.toInt else 16

/-- Whether a window is the one for a requested start and count. The count does not depend on the
start, and it is the requested one exactly where an operation with that limit allows it. -/
structure Confines (limit start count : Int64) (window : Page) : Prop where
  start : window.start.toInt = max start.toInt 0
  least : 1 ≤ window.count.toInt
  most : window.count.toInt ≤ greatest limit
  kept : window.count = count ↔ 1 ≤ count.toInt ∧ count.toInt ≤ greatest limit
  full : ¬(1 ≤ count.toInt ∧ count.toInt ≤ greatest limit) → window.count.toInt = greatest limit

theorem size_toInt (limit : Int64) : (Page.size limit).toInt = greatest limit := by
  have positive : 0 < limit ↔ 0 < limit.toInt := Int64.lt_iff_toInt_lt
  unfold Page.size greatest
  by_cases given : 0 < limit
  · rw [if_pos given, if_pos (positive.mp given)]
  · rw [if_neg given, if_neg fun more => given (positive.mpr more)]
    rfl

theorem greatest_positive (limit : Int64) : 1 ≤ greatest limit := by
  unfold greatest
  split
  · omega
  · decide

theorem plan_confines (limit start count : Int64) :
    Confines limit start count (Page.plan start count limit) := by
  have size := size_toInt limit
  have positive := greatest_positive limit
  have allowed : (1 ≤ count ∧ count ≤ Page.size limit) ↔
      1 ≤ count.toInt ∧ count.toInt ≤ greatest limit := by
    rw [← size]
    exact and_congr Int64.le_iff_toInt_le Int64.le_iff_toInt_le
  have started : (Page.plan start count limit).start.toInt = max start.toInt 0 := toInt_max start 0
  by_cases within : 1 ≤ count.toInt ∧ count.toInt ≤ greatest limit
  · have counted : (Page.plan start count limit).count = count := if_pos (allowed.mpr within)
    refine ⟨started, ?_, ?_, iff_of_true counted within, fun beyond => absurd within beyond⟩
    · rw [counted]
      exact within.1
    · rw [counted]
      exact within.2
  · have counted : (Page.plan start count limit).count = Page.size limit :=
      if_neg fun asked => within (allowed.mp asked)
    refine ⟨started, ?_, ?_, iff_of_false (fun same => within ?_) within, fun _ => ?_⟩
    · rw [counted, size]
      exact positive
    · exact Int.le_of_eq (by rw [counted, size])
    · rw [← same, counted, size]
      exact ⟨positive, Int.le_refl _⟩
    · rw [counted, size]

/-- Nothing of a confined window is raised to zero. -/
theorem clampedWindow_confined {limit start count : Int64} {window : Page}
    (confines : Confines limit start count window) :
    clampedWindow window.count window.start = plainWindow window.count window.start := by
  have count : max window.count 0 = window.count := by
    apply Int64.toInt_inj.mp
    have least := confines.least
    rw [toInt_max, Int64.toInt_zero]
    omega
  have start : max window.start 0 = window.start := by
    apply Int64.toInt_inj.mp
    have started := confines.start
    rw [toInt_max, Int64.toInt_zero]
    omega
  rw [clampedWindow, count, start]

theorem window_confined {d : Dialect} (windows : WritesWindows d) {limit start count : Int64}
    {window : Page} (confines : Confines limit start count window) :
    d.window window.count window.start = plainWindow window.count window.start := by
  rcases windows with plain | clamped
  · rw [plain]
  · rw [clamped, clampedWindow_confined confines]

theorem writesWindows_known {d : Dialect}
    (known : d = .sqlite ∨ d = .postgres ∨ d.window = plainWindow) : WritesWindows d := by
  rcases known with rfl | rfl | plain
  · exact Or.inr rfl
  · exact Or.inr rfl
  · exact Or.inl plain

/-- A window that is asked for again is given again. -/
theorem plan_again {limit start count : Int64} {window : Page}
    (confines : Confines limit start count window) :
    Page.plan window.start window.count limit = window := by
  have again := plan_confines limit window.start window.count
  have kept : (Page.plan window.start window.count limit).count = window.count :=
    again.kept.mpr ⟨confines.least, confines.most⟩
  have started : (Page.plan window.start window.count limit).start = window.start := by
    apply Int64.toInt_inj.mp
    have first := again.start
    have before := confines.start
    omega
  calc Page.plan window.start window.count limit
      = ⟨(Page.plan window.start window.count limit).start,
          (Page.plan window.start window.count limit).count⟩ := rfl
    _ = window := by rw [kept, started]

/-- Whether a request has neither a number nor a text under a name. -/
def Unasked (request : Request) (name : String) : Prop :=
  (∀ n, request.get? name ≠ some (.number n)) ∧ ∀ s, request.get? name ≠ some (.text s)

/-- What the window of a listing is, for any query that it is the window of. -/
structure Windows (op : Operation) (request : Request) (window : Page) : Prop where
  confines : Confines op.limit (request.int "startIndex") (request.int "count") window
  started : ∀ n : Int64, Gives request "startIndex" n.toInt → window.start.toInt = max n.toInt 0
  counted : ∀ n : Int64, Gives request "count" n.toInt → window.count.toInt =
    if 1 ≤ n.toInt ∧ n.toInt ≤ greatest op.limit then n.toInt else greatest op.limit
  fromFirst : Unasked request "startIndex" → window.start.toInt = 0
  allAllowed : Unasked request "count" → window.count.toInt = greatest op.limit
  independent : ∀ other : Request, other.int "count" = request.int "count" →
    (op.page other).count = window.count
  clause : ∀ sql : String, ∃ gap, (gap = '\n' ∨ gap = ' ') ∧
    ∀ d : Dialect, d = .sqlite ∨ d = .postgres ∨ d.window = plainWindow →
    (d.limited sql window.count window.start).toList = Text.trimEnd sql.toList ++ gap ::
      ("LIMIT " ++ toString window.count.toInt ++ " OFFSET " ++
        toString window.start.toInt).toList
  again : ∀ other : Request, Gives other "startIndex" window.start.toInt →
    Gives other "count" window.count.toInt → op.page other = window

variable {σ : Type}

/-- How a prepared listing ends, by what was asked of its store: it counts its query, then reads the rows
of one window, and puts the same window into its envelope. -/
inductive Ends (store : Store σ) (prepared : Operation.Prepared) (window : Page) :
    List Exchange → Except Fault Envelope → Prop
  | uncounted (cause : Store.Error) : Ends store prepared window
      [.count (store.dialect.counted prepared.statement.text) prepared.statement.params
        (.error cause)]
      (.error (.store cause))
  | unread (total : Int64) (cause : Store.Error) : Ends store prepared window
      [.count (store.dialect.counted prepared.statement.text) prepared.statement.params (.ok total),
        .rows (store.dialect.limited prepared.statement.text window.count window.start)
          prepared.statement.params (.error cause)]
      (.error (.store cause))
  | listed (total : Int64) (entries : List Row) : Ends store prepared window
      [.count (store.dialect.counted prepared.statement.text) prepared.statement.params (.ok total),
        .rows (store.dialect.limited prepared.statement.text window.count window.start)
          prepared.statement.params (.ok entries)]
      (.ok ⟨total, window, entries⟩)

/-- That a listing asks its store for the rows of one window, and tells its client of the same. -/
structure UsesWindow (store : Store σ) (op : Operation) (request : Request) (window : Page)
    (state : σ) : Prop where
  prepared : ∀ prepared, op.prepare request = .ok prepared → Ends store prepared window
    (exchanges store (fun store => op.queryAll store request) state)
    ((op.queryAll store request).run state).1
  unprepared : ∀ fault, op.prepare request = .error fault →
    exchanges store (fun store => op.queryAll store request) state = [] ∧
      ((op.queryAll store request).run state).1 = .error fault
  tells : ∀ envelope, ((op.queryAll store request).run state).1 = .ok envelope →
    envelope.toJson.get? "startIndex" = some (.ofInt window.start.toInt) ∧
      envelope.toJson.get? "itemsPerPage" = some (.ofInt window.count.toInt)

theorem int_unasked {name : String} (unasked : Unasked request name) : request.int name = 0 := by
  obtain ⟨number, text⟩ := unasked
  unfold Request.int
  split
  · rename_i n given
    exact absurd given (number n)
  · rename_i s given
    exact absurd given (text s)
  · rfl

/-- The count of a window, as an integer. -/
theorem Confines.count_toInt {limit start count : Int64} {window : Page}
    (confines : Confines limit start count window) : window.count.toInt =
      if 1 ≤ count.toInt ∧ count.toInt ≤ greatest limit then count.toInt else greatest limit := by
  split
  · rename_i within
    rw [confines.kept.mpr within]
  · rename_i beyond
    exact confines.full beyond

theorem page_windows (op : Operation) (request : Request) :
    Windows op request (op.page request) := by
  have confines : Confines op.limit (request.int "startIndex") (request.int "count")
      (op.page request) := plan_confines _ _ _
  have started := confines.start
  have counted := confines.count_toInt
  refine ⟨confines, fun n gives => ?_, fun n gives => ?_, fun unasked => ?_, fun unasked => ?_,
    fun other same => ?_, fun sql => ?_, fun other start count => ?_⟩
  · rwa [int_of_gives gives] at started
  · rwa [int_of_gives gives] at counted
  · rwa [int_unasked unasked] at started
  · rwa [int_unasked unasked] at counted
  · rw [Operation.page, Operation.page, same]
    rfl
  · refine ⟨if Dialect.mayEndInComment (Text.trimEnd sql.toList) then '\n' else ' ', ?_, ?_⟩
    · split
      · exact Or.inl rfl
      · exact Or.inr rfl
    · intro d known
      rw [limited_toList, window_confined (writesWindows_known known) confines]
      rfl
  · rw [Operation.page, int_of_gives start, int_of_gives count]
    exact plan_again confines

theorem listing_ends {prepared : Operation.Prepared} (ready : op.prepare request = .ok prepared)
    (store : Store σ) (state : σ) : Ends store prepared (op.page request)
      (exchanges store (fun store => op.queryAll store request) state)
      ((op.queryAll store request).run state).1 := by
  unfold exchanges
  rw [queryAll_run ready, queryAll_run ready]
  simp only [observed, noted_run]
  rcases (store.count _ _).run state with ⟨cause | total, later⟩
  · exact .uncounted cause
  · simp only [noted_run]
    rcases (store.rows _ _).run later with ⟨cause | entries, last⟩
    · exact .unread total cause
    · exact .listed total entries

/-- The window that a listing tells of is its own. -/
theorem Ends.page {store : Store σ} {prepared : Operation.Prepared} {window : Page}
    {asked : List Exchange} {envelope : Envelope}
    (ends : Ends store prepared window asked (.ok envelope)) : envelope.page = window := by
  cases ends
  rfl

theorem page_used (store : Store σ) (op : Operation) (request : Request) (state : σ) :
    UsesWindow store op request (op.page request) state where
  prepared _ ready := listing_ends ready store state
  unprepared fault failed := by
    unfold exchanges
    rw [queryAll_unprepared failed, queryAll_unprepared failed]
    exact ⟨rfl, rfl⟩
  tells envelope listed := by
    cases ready : op.prepare request with
    | error fault =>
      rw [queryAll_unprepared ready] at listed
      cases listed
    | ok prepared =>
      have ends := listing_ends ready store state
      rw [listed] at ends
      rw [← ends.page]
      exact ⟨rfl, rfl⟩

/-- **The window of a listing.** What a request asks for is confined to what the operation allows; the
statement for the rows and the envelope around them carry the same two numbers, and a request for these
gets them again. -/
theorem listing_window (op : Operation) (request : Request) :
    Windows op request (op.page request) ∧
      ∀ {σ : Type} (store : Store σ) (state : σ),
        UsesWindow store op request (op.page request) state :=
  ⟨page_windows op request, fun store state => page_used store op request state⟩

/-- A request for three rows from the eighth on, with blanks that do not matter. -/
def laterNotes : Request := .ofPairs [("startIndex", " 7"), ("count", "3 ")]

theorem laterNotes_window : Gives laterNotes "startIndex" 7 ∧ Gives laterNotes "count" 3 ∧
    ((Operation.listing "notes" "SELECT id FROM notes").page laterNotes).start.toInt = 7 ∧
    ((Operation.listing "notes" "SELECT id FROM notes").page laterNotes).count.toInt = 3 := by
  have start : Gives laterNotes "startIndex" (7 : Int64).toInt :=
    @Gives.text _ _ _ [' '] [] (by simp [Text.isBlank]) (by simp) rfl
  have count : Gives laterNotes "count" (3 : Int64).toInt :=
    @Gives.text _ _ _ [] [' '] (by simp) (by simp [Text.isBlank]) rfl
  have windows := (listing_window (.listing "notes" "SELECT id FROM notes") laterNotes).1
  exact ⟨start, count, windows.started 7 start, windows.counted 3 count⟩

example : (Operation.listing "notes" "SELECT id FROM notes").page
    (.ofPairs [("startIndex", " -3 "), ("count", "17")]) = ⟨0, 16⟩ := by
  decide +kernel

end NamedSql.PageWindow
