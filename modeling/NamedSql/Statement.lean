import NamedSql.Request
import NamedSql.Sql.Reference
import NamedSql.Warning
/-!
Statements with named placeholders and the parameters bound to them. An operation's statement binds
the request values that it refers to; the parameters of a filter are merged with these.
-/
namespace NamedSql

/-- A statement and the parameters bound to its placeholders. -/
structure Statement where
  text : String
  params : Params
deriving DecidableEq, Repr

/-- Rewrites the references of a statement to placeholders and binds each name that is referred to
to the value of the request, null where it has none. -/
def Statement.bind (sql : String) (request : Request) : Statement :=
  ⟨Sql.rewriteReferences sql,
    Record.ofList ((Sql.referencedNames sql).map fun name => (name, request.value name))⟩

/-- What to do when a filter and a statement bind one name. -/
inductive MergePolicy where
  | reject
  /-- The filter's value counts. -/
  | overwrite
deriving DecidableEq, Repr, Inhabited

/-- The name of a policy. -/
def MergePolicy.name : MergePolicy → String
  | reject => "reject"
  | overwrite => "overwrite"

/-- A name that both a filter and a statement bind. -/
structure Conflict where
  parameter : String
deriving DecidableEq, Repr

/-- Inserts a filter's parameter into those merged so far. -/
def mergeParameter (policy : MergePolicy) (merged : Params × List Warning)
    (parameter : String × Value) : Except Conflict (Params × List Warning) :=
  let (params, warnings) := merged
  let (name, value) := parameter
  if params.contains name then
    match policy with
    | .reject => .error ⟨name⟩
    | .overwrite => .ok (params.insert name value, warnings ++ [.filterOverrides name])
  else .ok (params.insert name value, warnings)

/-- The statement's parameters followed by the filter's, with a warning for each name that the
filter takes over. -/
def mergeParams (policy : MergePolicy) (filter statement : Params) :
    Except Conflict (Params × List Warning) :=
  filter.entries.foldlM (mergeParameter policy) (statement, [])

end NamedSql
