import NamedSql.Store
/-!
The end of the service. Whoever has to stop with it watches for the signal, which is given once and
for all; then the connections to the database are closed.
-/
namespace NamedSql

/-- Whether the service is to stop, and whether its database is still open. -/
structure Shutdown where
  isTriggered : Bool := false
  isOpen : Bool := true
deriving DecidableEq, Repr, Inhabited

namespace Shutdown

/-- The service is to stop. -/
def trigger (s : Shutdown) : Shutdown := { s with isTriggered := true }

/-- Stops the service and closes the database. -/
def shutdown (s : Shutdown) : Shutdown := { s.trigger with isOpen := false }

/-- Asks the database whether it is there. -/
def ping (s : Shutdown) (backend : Store.Backend) : Except Store.Error Unit :=
  if s.isOpen then .ok () else .error (.failed backend .poolClosed)

end Shutdown

end NamedSql
