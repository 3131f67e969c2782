import NamedSql.NameMap
import NamedSql.Operation
/-!
The operations that the service offers, each valid and under its own name.
-/
namespace NamedSql

/-- The operations on offer, by name. -/
structure Registry where
  operations : NameMap Operation
deriving Inhabited

namespace Registry

/-- Nothing on offer. -/
def empty : Registry := ⟨NameMap.empty⟩

/-- The operation of a name. -/
def get? (r : Registry) (name : String) : Option Operation := r.operations.get? name

/-- The operations in the order of their names. -/
def toList (r : Registry) : List Operation := r.operations.values

/-- How many operations there are. -/
def size (r : Registry) : Nat := r.operations.size

/-- Puts a valid operation whose name is not taken on offer, and lists the warnings about it. -/
def offer (op : Operation) : StateM Registry (List Warning × Except Operation.Defect Unit) := do
  match op.validate with
  | .error defect => return ([], .error defect)
  | .ok warnings =>
    if (← get).operations.contains op.name then return (warnings, .error (.duplicate op.name))
    else
      modify fun r => ⟨r.operations.insert op.name op⟩
      return (warnings, .ok ())

/-- The registry with one more operation on offer, unless it is refused, and the warnings about it. -/
def register (r : Registry) (op : Operation) :
    List Warning × Except Operation.Defect Registry :=
  let ((warnings, result), later) := (offer op).run r
  (warnings, result.map fun () => later)

/-- Adds operations in their order, each under the name it is listed with, up to the first that is
refused. -/
def registerAll (r : Registry) :
    List (String × Operation) → List Warning × Except Operation.Defect Registry
  | [] => ([], .ok r)
  | (name, op) :: rest =>
    match r.register { op with name } with
    | (warnings, .error defect) => (warnings, .error defect)
    | (warnings, .ok r) =>
      let (more, result) := r.registerAll rest
      (warnings ++ more, result)

/-- The registry of configured operations, each named by its key. -/
def ofConfig (operations : NameMap Operation) :
    List Warning × Except Operation.Defect Registry :=
  empty.registerAll operations.entries

end Registry

end NamedSql
