import NamedSql.Filter
/-!
Operations: statements that the service offers under a name. An operation either lists rows, a page
at a time and through a filter, or carries out one statement. What cannot run correctly is refused
before the service starts.
-/
namespace NamedSql

namespace Operation

/-- What an operation does with its statement. -/
inductive Kind where
  /-- Lists rows. -/
  | queryAll
  /-- Carries out one statement. -/
  | execute
deriving DecidableEq, Repr, Inhabited

/-- The name of a kind. -/
def Kind.name : Kind → String
  | queryAll => "query_all"
  | execute => "execute"

end Operation

/-- A statement offered under a name. -/
structure Operation where
  name : String
  kind : Operation.Kind
  sql : String
  /-- The greatest page; one below 1 stands for the default. -/
  limit : Int64
  filtering : Bool
  /-- The columns that a filter may name. -/
  columns : List String
  binding : Filter.Binding
  policy : MergePolicy
deriving DecidableEq, Repr, Inhabited

namespace Operation

/-- An operation that lists the rows of a query, without a filter. -/
def listing (name sql : String) : Operation :=
  ⟨name, .queryAll, sql, 0, false, [], .exact, .reject⟩

/-- An operation that carries out a statement. -/
def statement (name sql : String) : Operation := { listing name sql with kind := .execute }

/-- The operation with a filter on the given columns. -/
def withFilter (op : Operation) (columns : List String) : Operation :=
  { op with filtering := true, columns }

/-- Why an operation is not offered. -/
inductive Defect where
  | unnamed
  | emptyStatement (operation : String)
  | badColumn (operation column : String)
  /-- The statement refers to a name that its filter binds. -/
  | reservedParameter (operation parameter : String)
  /-- A statement that lists nothing has a filter marker. -/
  | markerInStatement (operation : String)
  | duplicate (operation : String)
  | stated (reason : String)
deriving DecidableEq, Repr

/-- The text of a defect. -/
def Defect.message : Defect → String
  | unnamed => "Operation name is required"
  | emptyStatement operation => "Operation '" ++ operation ++ "' has no SQL"
  | badColumn operation column =>
    "Operation '" ++ operation ++ "' has invalid filtering column '" ++ column ++ "'"
  | reservedParameter operation parameter =>
    "Operation '" ++ operation ++ "' references reserved filter parameter '" ++ parameter ++ "'"
  | markerInStatement operation =>
    "Operation '" ++ operation ++ "' is an execute operation and cannot contain " ++
      String.ofList Sql.marker
  | duplicate operation => "Operation '" ++ operation ++ "' is already registered"
  | stated reason => reason

/-- Whether a text is a column's name: a letter or an underscore, then letters, digits, underscores
and dots. -/
def isColumnName (s : String) : Bool :=
  match s.toList with
  | [] => false
  | c :: rest => Sql.isNameStart c && rest.all fun d => Sql.isNameChar d || d = '.'

/-- The first reference to a name that the filter of the operation binds, unless the operation lets
the filter take it over. -/
def reservedReference? (op : Operation) : Option String :=
  if op.kind = .queryAll ∧ op.filtering ∧ op.policy = .reject then
    (Sql.referencedNames op.sql).find? (· ∈ Filter.parameterNames)
  else none

/-- Checks an operation; if it is offered, there may still be warnings. -/
def validate (op : Operation) : Except Defect (List Warning) :=
  if Text.isAllBlank op.name then .error .unnamed
  else if Text.isAllBlank op.sql then .error (.emptyStatement op.name)
  else
    match op.columns.find? fun column => !isColumnName column with
    | some column => .error (.badColumn op.name column)
    | none =>
      match op.reservedReference? with
      | some parameter => .error (.reservedParameter op.name parameter)
      | none =>
        if op.kind = .execute ∧ Sql.hasMarker op.sql then .error (.markerInStatement op.name)
        else .ok (if op.kind = .execute ∧ op.filtering then [.filteringIgnored op.name] else [])

end Operation

end NamedSql
