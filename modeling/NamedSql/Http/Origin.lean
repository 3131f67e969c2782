/-!
The web origins whose pages may use the service: those of the address that it listens on. An address
on the own machine, or on all networks, goes by two names.
-/
namespace NamedSql.Http

/-- Whether a host stands for every network of the machine. -/
def isEveryInterface (host : String) : Bool := host ∈ ["0.0.0.0", "::", "[::]"]

/-- The names that a host goes by in an origin. -/
def originHosts (host : String) : List String :=
  if isEveryInterface host ∨ host = "127.0.0.1" ∨ host = "localhost" then
    ["localhost", "127.0.0.1"]
  else [host]

/-- The origins of a host, each with the port and without. -/
def origins (host : String) (port : Nat) : List String :=
  (originHosts host).flatMap fun host =>
    ["http://" ++ host ++ ":" ++ toString port, "http://" ++ host]

/-- Whether a text can stand in a header: visible ASCII, blanks and tabs. -/
def fitsHeader (s : String) : Bool :=
  s.toList.all fun c => (32 ≤ c.toNat && c.toNat < 127) || c = '\t'

end NamedSql.Http
