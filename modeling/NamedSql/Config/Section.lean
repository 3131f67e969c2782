import NamedSql.Json.Draft.Field
import NamedSql.Store
/-!
The sections of a configuration file: where the service listens, and which database it uses. Every
field may be absent or null, which leaves it to a lower layer. A section that is written as a list
gives the values of all its fields.
-/
namespace NamedSql.Config

/-- Where the service listens, as far as a file says it. -/
structure ServerSection where
  host : Option String := none
  port : Option UInt16 := none
deriving Repr, DecidableEq, Inhabited

/-- Which database is used and how, as far as a file says it. -/
structure DatabaseSection where
  backend : Option Store.Backend := none
  url : Option String := none
  maxConnections : Option UInt32 := none
  minConnections : Option UInt32 := none
  acquireTimeout : Option UInt64 := none
  statementTimeout : Option UInt64 := none
deriving Repr, DecidableEq, Inhabited

/-- The value of a field that may be absent or null. -/
def setting? {α : Type} (found : Record Json.Draft) (name : String)
    (read? : Json.Draft → Option α) : Option (Option α) :=
  Json.Draft.valueOf? found name none (Json.Draft.nullable? read?)

/-- A number of connections. -/
def connections? (d : Json.Draft) : Option UInt32 := (d.nat? UInt32.size).map UInt32.ofNat

/-- A number of seconds. -/
def seconds? (d : Json.Draft) : Option UInt64 := (d.nat? UInt64.size).map UInt64.ofNat

/-- The database systems by the names that a file gives them. -/
def backends : List (String × Store.Backend) :=
  [Store.Backend.sqlite, .postgres].map fun backend => (backend.name, backend)

namespace ServerSection

/-- The fields of the section, in the order of a list of their values. -/
def fields : List Json.Draft.Field := [⟨"host", []⟩, ⟨"port", []⟩]

/-- Reads the section. -/
def ofDraft? (d : Json.Draft) : Option ServerSection := do
  let found ← d.fields? fields true
  let host ← setting? found "host" Json.Draft.text?
  let port ← setting? found "port" fun d => (d.nat? UInt16.size).map UInt16.ofNat
  return { host, port }

/-- The section with what `upper` sets put over it. -/
def overlay (lower upper : ServerSection) : ServerSection where
  host := upper.host <|> lower.host
  port := upper.port <|> lower.port

end ServerSection

namespace DatabaseSection

/-- The fields of the section, in the order of a list of their values. -/
def fields : List Json.Draft.Field :=
  [⟨"backend", []⟩, ⟨"url", []⟩, ⟨"max_connections", []⟩, ⟨"min_connections", []⟩,
    ⟨"acquire_timeout_secs", []⟩, ⟨"statement_timeout_secs", []⟩]

/-- Reads the section. -/
def ofDraft? (d : Json.Draft) : Option DatabaseSection := do
  let found ← d.fields? fields true
  let backend ← setting? found "backend" (Json.Draft.choice? backends)
  let url ← setting? found "url" Json.Draft.text?
  let maxConnections ← setting? found "max_connections" connections?
  let minConnections ← setting? found "min_connections" connections?
  let acquireTimeout ← setting? found "acquire_timeout_secs" seconds?
  let statementTimeout ← setting? found "statement_timeout_secs" seconds?
  return { backend, url, maxConnections, minConnections, acquireTimeout, statementTimeout }

/-- The section with what `upper` sets put over it. -/
def overlay (lower upper : DatabaseSection) : DatabaseSection where
  backend := upper.backend <|> lower.backend
  url := upper.url <|> lower.url
  maxConnections := upper.maxConnections <|> lower.maxConnections
  minConnections := upper.minConnections <|> lower.minConnections
  acquireTimeout := upper.acquireTimeout <|> lower.acquireTimeout
  statementTimeout := upper.statementTimeout <|> lower.statementTimeout

end DatabaseSection

end NamedSql.Config
