import NamedSql.Operation
import NamedSql.Page
import NamedSql.Store
/-!
Running operations. A listing asks the store for the number of rows of its query, and if that is
answered for the rows of one page of the same query with the same parameters. A statement is carried
out once.
-/
namespace NamedSql

/-- Why an operation did not run. -/
inductive Fault where
  | misconfigured (defect : Operation.Defect)
  | conflict (parameter : String)
  | statementFailed (cause : Store.Error)
  | store (cause : Store.Error)
deriving DecidableEq, Repr

namespace Fault

/-- The text of a fault. -/
def message : Fault → String
  | misconfigured defect => "Configuration error: " ++ defect.message
  | conflict parameter =>
    "Parameter '" ++ parameter ++ "' is bound by both the filter and the query template"
  | statementFailed _ => "Statement execution resulted in failure"
  | store cause => cause.message

/-- Whether the fault lies in how the operation is written rather than in the request. -/
def isConfiguration : Fault → Bool
  | misconfigured _ | conflict _ | store (.unbound _) => true
  | _ => false

/-- The error of the store behind a fault. -/
def cause? : Fault → Option Store.Error
  | statementFailed cause | store cause => some cause
  | _ => none

end Fault

/-- One page of the rows of a listing. -/
structure Envelope where
  /-- The number of rows of the whole listing. -/
  total : Int64
  page : Page
  entries : List Row

namespace Operation

/-- A listing's query before it is confined to a page. -/
structure Prepared where
  statement : Statement
  warnings : List Warning
deriving DecidableEq, Repr

/-- Puts the filter of a request into an operation's statement, binds the values referred to, and
merges the parameters of both. Without filtering the marker becomes the predicate that always
holds. -/
def prepare (op : Operation) (request : Request) : Except Fault Prepared :=
  let fields := if op.filtering then some (Filter.Fields.ofRequest request) else none
  let compiled := Filter.compile op.sql fields op.columns op.binding
  let bound := Statement.bind compiled.text request
  match mergeParams op.policy compiled.params bound.params with
  | .error conflict => .error (.conflict conflict.parameter)
  | .ok (params, warnings) => .ok ⟨⟨bound.text, params⟩, warnings⟩

/-- The page that a request asks an operation for. -/
def page (op : Operation) (request : Request) : Page :=
  Page.plan (request.int "startIndex") (request.int "count") op.limit

variable {σ : Type}

/-- Lists one page of rows. -/
def queryAll (store : Store σ) (op : Operation) (request : Request) :
    StateM σ (Except Fault Envelope) :=
  match op.prepare request with
  | .error fault => pure (.error fault)
  | .ok ⟨⟨sql, params⟩, _⟩ => do
    let page := op.page request
    match ← store.count (store.dialect.counted sql) params with
    | .error cause => return .error (.store cause)
    | .ok total =>
      match ← store.rows (store.dialect.limited sql page.count page.start) params with
      | .error cause => return .error (.store cause)
      | .ok entries => return .ok ⟨total, page, entries⟩

/-- Carries out the operation's statement. -/
def execute (store : Store σ) (op : Operation) (request : Request) :
    StateM σ (Except Fault Unit) := do
  let statement := Statement.bind op.sql request
  match ← store.execute statement.text statement.params with
  | .ok _ => return .ok ()
  | .error (.unbound name) => return .error (.store (.unbound name))
  | .error cause => return .error (.statementFailed cause)

/-- What a statement that was carried out is answered with. -/
def successMessage : String := "Statement executed successfully"

end Operation

end NamedSql
