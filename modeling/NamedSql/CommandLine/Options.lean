import NamedSql.Store
import NamedSql.Text.Integer
/-!
What a command line, or the environment in its place, may set. Whatever is not set is left to the
configuration files.
-/
namespace NamedSql.CommandLine

/-- The settings that a command line overrides. -/
structure Options where
  host : Option String := none
  port : Option UInt16 := none
  debug : Bool := false
  /-- The path of a configuration file. -/
  config : Option String := none
  backend : Option Store.Backend := none
  url : Option String := none
deriving Repr, DecidableEq, Inhabited

/-- The options by what they set. -/
inductive Key where
  | host
  | port
  | debug
  | config
  | backend
  | url
deriving Repr, DecidableEq

namespace Key

/-- All options, in the order in which the environment is asked for them. -/
def all : List Key := [host, port, debug, config, backend, url]

/-- The name of an option. -/
def name : Key → String
  | host => "host"
  | port => "port"
  | debug => "debug"
  | config => "config"
  | backend => "database-backend"
  | url => "database-url"

/-- The letter of an option. -/
def letter? : Key → Option Char
  | host => some 'H'
  | port => some 'p'
  | config => some 'c'
  | debug | backend | url => none

/-- The variable of the environment that stands in for an option. -/
def environmentName : Key → String
  | host => "SQLGATE_HOST"
  | port => "SQLGATE_PORT"
  | debug => "SQLGATE_DEBUG"
  | config => "SQLGATE_CONFIG"
  | backend => "SQLGATE_DATABASE_BACKEND"
  | url => "SQLGATE_DATABASE_URL"

/-- Whether an option is followed by a value. -/
def takesValue : Key → Bool
  | debug => false
  | _ => true

end Key

/-- Why a command line cannot be followed. -/
inductive Misuse where
  /-- A word that is no command stands where a command may stand. -/
  | unknownCommand
  | unknownArgument
  | badValue
  /-- A value is missing, or none of the possible ones. -/
  | noValue
  | repeated
  | surplusValue
deriving Repr, DecidableEq

/-- The options that are set, each at most once. -/
structure Given where
  host : Option String := none
  port : Option UInt16 := none
  debug : Option Bool := none
  config : Option String := none
  backend : Option Store.Backend := none
  url : Option String := none
deriving Repr, DecidableEq, Inhabited

namespace Given

/-- Whether an option is set. -/
def has (g : Given) : Key → Bool
  | .host => g.host.isSome
  | .port => g.port.isSome
  | .debug => g.debug.isSome
  | .config => g.config.isSome
  | .backend => g.backend.isSome
  | .url => g.url.isSome

/-- The number of a port. -/
def port? (s : String) : Option UInt16 := do
  let n ← Text.readInt? s.toList
  if 0 ≤ n ∧ n < UInt16.size then some (UInt16.ofNat n.toNat) else none

/-- A database system by one of its names, in letters of either case. -/
def backend? (s : String) : Option Store.Backend :=
  [("sqlite", Store.Backend.sqlite), ("postgres", .postgres), ("postgresql", .postgres)].lookup
    (s.map Char.toLower)

/-- Sets an option to what a text says. -/
def set (g : Given) (key : Key) (s : String) : Except Misuse Given :=
  match key with
  | .host => .ok { g with host := s }
  | .port =>
    match port? s with
    | some port => .ok { g with port := some port }
    | none => .error .badValue
  | .debug =>
    match s with
    | "true" => .ok { g with debug := some true }
    | "false" => .ok { g with debug := some false }
    | _ => .error .noValue
  | .config => if s.isEmpty then .error .noValue else .ok { g with config := s }
  | .backend =>
    match backend? s with
    | some backend => .ok { g with backend := some backend }
    | none => .error .badValue
  | .url => .ok { g with url := s }

/-- Sets an option that is not yet set. -/
def add (g : Given) (key : Key) (s : String) : Except Misuse Given :=
  if g.has key then .error .repeated else g.set key s

/-- What is set in either place, the first one before the second. -/
def orElse (g h : Given) : Given where
  host := g.host <|> h.host
  port := g.port <|> h.port
  debug := g.debug <|> h.debug
  config := g.config <|> h.config
  backend := g.backend <|> h.backend
  url := g.url <|> h.url

/-- Sets what is not yet set from the environment. -/
def addVariables (g : Given) (valueOf? : String → Option String) : Except Misuse Given :=
  Key.all.foldlM (fun g key =>
    match valueOf? key.environmentName with
    | some s => if g.has key then .ok g else g.set key s
    | none => .ok g) g

/-- The settings that are overridden. -/
def options (g : Given) : Options := { g with debug := g.debug.getD false }

end Given

end NamedSql.CommandLine
