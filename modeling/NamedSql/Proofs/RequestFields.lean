import NamedSql.Proofs.Preparation
import NamedSql.Proofs.StoreExchanges

/-! An operation reads of a request the values that its statement refers to, and a listing besides them
the page that is asked for and, where it filters, the filter. Requests that agree in these are run
alike on every store: the same is asked of it, with the same parameters, and the same comes of it. In
particular the filter that is put into a statement never makes it refer to another value. -/
namespace NamedSql.RequestFields
open Sql StatementParts MarkerSplicing FilterPredicate ParameterNames Preparation StoreExchanges

variable {op : Operation} {first second request : Request} {warnings : List Warning}

/-- The fields of a request that a filter is made of. -/
def filterFields : List String := ["filterBy", "filterOp", "filterValue", "filterValueB"]

/-- Two requests with the same values under the names that an operation's statement refers to. -/
def SameReferences (op : Operation) (first second : Request) : Prop :=
  ∀ name ∈ referencedNames op.sql, first.get? name = second.get? name

/-- Two requests for the same page of an operation, filtered alike if it filters. -/
structure SameView (op : Operation) (first second : Request) : Prop where
  start : first.int "startIndex" = second.int "startIndex"
  count : first.int "count" = second.int "count"
  filter : op.filtering = true → ∀ field ∈ filterFields, first.text? field = second.text? field

/-- A statement depends on a request through the names that it refers to. -/
theorem bind_congr {sql : String}
    (agree : ∀ name ∈ references sql, first.value name = second.value name) :
    Statement.bind sql first = Statement.bind sql second := by
  have pairs : (referencedNames sql).map (fun name => (name, first.value name)) =
      (referencedNames sql).map fun name => (name, second.value name) := by
    refine List.map_congr_left fun name member => ?_
    rw [agree name (mem_referencedNames.mp member)]
  rw [Statement.bind, Statement.bind, pairs]

/-- Putting a filter into an accepted operation's statement adds no reference to it. -/
theorem references_compiled (accepted : op.validate = .ok warnings) {name : String}
    (referenced : name ∈ references (compiled op request).text) : name ∈ referencedNames op.sql := by
  rw [compiled_text, references_replaceMarkers (predicateText_inert accepted request)] at referenced
  exact mem_referencedNames.mpr (List.mem_filter.mp referenced).1

theorem compiled_congr (view : SameView op first second) : compiled op first = compiled op second := by
  cases filtering : op.filtering with
  | false => simp only [compiled, filtering, Bool.false_eq_true, if_false]
  | true =>
    have texts := view.filter filtering
    have fields : Filter.Fields.ofRequest first = Filter.Fields.ofRequest second := by
      simp only [Filter.Fields.ofRequest, Filter.Fields.mk.injEq]
      exact ⟨texts _ (by decide), texts _ (by decide), texts _ (by decide), texts _ (by decide)⟩
    rw [compiled, compiled, fields]

theorem value_congr {name : String} (same : first.get? name = second.get? name) :
    first.value name = second.value name := by
  rw [Request.value, Request.value, same]

theorem prepare_congr (accepted : op.validate = .ok warnings)
    (references : SameReferences op first second) (view : SameView op first second) :
    op.prepare first = op.prepare second := by
  have bound : Statement.bind (compiled op second).text first =
      Statement.bind (compiled op second).text second :=
    bind_congr fun name member => value_congr (references name (references_compiled accepted member))
  rw [prepare_eq, prepare_eq, compiled_congr view, bound]

variable {σ α : Type}

theorem queryAll_congr (accepted : op.validate = .ok warnings)
    (references : SameReferences op first second) (view : SameView op first second)
    (store : Store σ) : op.queryAll store first = op.queryAll store second := by
  have page : op.page first = op.page second := by
    rw [Operation.page, Operation.page, view.start, view.count]
  rw [Operation.queryAll, Operation.queryAll, prepare_congr accepted references view, page]

theorem execute_congr (references : SameReferences op first second) (store : Store σ) :
    op.execute store first = op.execute store second := by
  have bound : Statement.bind op.sql first = Statement.bind op.sql second :=
    bind_congr fun name member =>
      value_congr (references name (mem_referencedNames.mpr member))
  rw [Operation.execute, Operation.execute, bound]

/-- Two uses of a store that ask it the same in the same order, and end alike, from every state of
every store. -/
def SameUse (first second : (σ : Type) → Store σ → StateM σ α) : Prop :=
  ∀ (σ : Type) (store : Store σ) (state : σ),
    exchanges store (first _) state = exchanges store (second _) state ∧
      (first σ store).run state = (second σ store).run state

theorem sameUse_of_eq {first second : (σ : Type) → Store σ → StateM σ α}
    (same : ∀ (σ : Type) (store : Store σ), first σ store = second σ store) :
    SameUse first second := by
  intro σ store state
  rw [exchanges, exchanges, same, same]
  exact ⟨rfl, rfl⟩

theorem get?_insert_ne {field name : String} (other : name ≠ field) (value : Json) :
    (request.insert field value).get? name = request.get? name := by
  rw [Request.insert, Request.get?, Record.get?_insert, if_neg other]
  rfl

theorem int_congr {name : String} (same : first.get? name = second.get? name) :
    first.int name = second.int name := by
  rw [Request.int, Request.int, same]

/-- A field that is not referred to, in an operation that does not filter. -/
theorem unfiltered_same (unfiltered : op.filtering = false) {field : String}
    (filters : field ∈ filterFields) (unreferenced : field ∉ referencedNames op.sql) (value : Json) :
    SameReferences op (request.insert field value) request ∧
      SameView op (request.insert field value) request := by
  have paging : "startIndex" ∉ filterFields ∧ "count" ∉ filterFields := by decide
  refine ⟨fun name member => get?_insert_ne ?_ value, ?_, ?_, fun filtering => ?_⟩
  · rintro rfl
    exact unreferenced member
  · exact int_congr (get?_insert_ne (by rintro rfl; exact paging.1 filters) value)
  · exact int_congr (get?_insert_ne (by rintro rfl; exact paging.2 filters) value)
  · rw [unfiltered] at filtering
    cases filtering

/-- **Only the fields that an operation uses have an effect.** Requests with the same values under the
names that an accepted operation refers to are carried out alike, and if they ask for the same page
through the same filter they are listed alike. Where an operation does not filter, a field of a filter
is without effect unless it is referred to. -/
theorem unused_fields_without_effect (accepted : op.validate = .ok warnings) :
    (∀ first second, SameReferences op first second →
      SameUse (fun _ store => op.execute store first) (fun _ store => op.execute store second) ∧
        (SameView op first second →
          SameUse (fun _ store => op.queryAll store first)
            (fun _ store => op.queryAll store second))) ∧
    (op.filtering = false → ∀ field ∈ filterFields, field ∉ referencedNames op.sql →
      ∀ request value,
        SameUse (fun _ store => op.execute store (request.insert field value))
            (fun _ store => op.execute store request) ∧
          SameUse (fun _ store => op.queryAll store (request.insert field value))
            (fun _ store => op.queryAll store request)) := by
  constructor
  · intro first second references
    refine ⟨sameUse_of_eq fun σ store => execute_congr references store, fun view => ?_⟩
    exact sameUse_of_eq fun σ store => queryAll_congr accepted references view store
  · intro unfiltered field filters unreferenced request value
    obtain ⟨references, view⟩ : SameReferences op (request.insert field value) request ∧
        SameView op (request.insert field value) request :=
      unfiltered_same unfiltered filters unreferenced value
    exact ⟨sameUse_of_eq fun σ store => execute_congr references store,
      sameUse_of_eq fun σ store => queryAll_congr accepted references view store⟩

/-- The request for titles with a field that the search has no use for. -/
def verboseRequest : Request := titleRequest.insert "verbose" (.bool true)

/-- A listing of the notes of an owner. -/
def ownedNotes : Operation := .listing "owned" "SELECT id FROM notes WHERE owner = \x7bowner\x7d"

theorem noteSearch_fields : noteSearch.validate = .ok [] ∧
    SameReferences noteSearch verboseRequest titleRequest ∧
    SameView noteSearch verboseRequest titleRequest ∧
    SameUse (fun _ store => noteSearch.queryAll store verboseRequest)
      (fun _ store => noteSearch.queryAll store titleRequest) ∧
    SameUse (fun _ store => ownedNotes.queryAll store (titleRequest.insert "filterBy" (.text "id")))
      (fun _ store => ownedNotes.queryAll store titleRequest) := by
  have accepted : noteSearch.validate = .ok [] := by decide +kernel
  have owned : ownedNotes.validate = .ok [] := by decide +kernel
  have unused : "verbose" ∉ referencedNames noteSearch.sql := by decide +kernel
  have references : SameReferences noteSearch verboseRequest titleRequest := by
    intro name member
    refine get?_insert_ne ?_ _
    rintro rfl
    exact unused member
  have view : SameView noteSearch verboseRequest titleRequest :=
    ⟨by decide, by decide, fun _ => by decide⟩
  have used := (unused_fields_without_effect accepted).1 verboseRequest titleRequest references
  have filters := (unused_fields_without_effect owned).2 rfl "filterBy" (by decide)
    (by decide +kernel) titleRequest (.text "id")
  exact ⟨accepted, references, view, used.2 view, filters.2⟩

end NamedSql.RequestFields
