import NamedSql.CommandLine.Help
import NamedSql.CommandLine.Parse
import NamedSql.Config.Load
import NamedSql.Environment.Variables
import NamedSql.Http.HostAddress
import NamedSql.Operation.Registry
import NamedSql.Operation.Run
import NamedSql.Postgres.Connect
import NamedSql.Program.Banner
import NamedSql.Sqlite.Connect
/-!
A run of the program, up to the point where it serves requests. The environment file, the command
line, the configuration files, the operations and the database are looked at in this order, and the
first that is at fault ends the run.
-/
namespace NamedSql.Program

/-- What the program needs of the machine it runs on. -/
structure Machine (m : Type → Type) where
  /-- The home directory. -/
  home : String
  look : String → m Files.Entry
  /-- Whether a database server answers. -/
  reaches : Postgres.Address → m Bool

/-- Why a run fails. -/
inductive Failure where
  | settings (error : Config.LoadError)
  | operations (defect : Operation.Defect)
  | database (backend : Store.Backend) (error : Store.Error)
  /-- The host to serve on is no address. -/
  | address
deriving Repr, DecidableEq

namespace Failure

/-- The text of a failure. -/
def message : Failure → String
  | settings error => error.message
  | operations _ => "Invalid operation configuration"
  | database backend _ => "Failed to connect to " ++ backend.name ++ " database"
  | address => "invalid IP address syntax"

/-- The failure that this one comes from, if it is known in more detail. -/
def cause? : Failure → Option String
  | settings error => error.reason?
  | operations defect => some (Fault.misconfigured defect).message
  | database _ error => some error.message
  | address => none

/-- What is wrong with the operations or the database's settings. -/
def misconfiguration? : Failure → Option String
  | operations defect => some (Fault.misconfigured defect).message
  | database _ (.config reason) => some (Store.Error.config reason).message
  | _ => none

/-- The report of a failure. -/
def report (f : Failure) : String :=
  "\nError: " ++ ": ".intercalate (f.message :: f.cause?.toList) ++ "\n\n"

end Failure

/-- A service that is about to begin. -/
structure Ready where
  settings : Config.Settings
  registry : Registry
  pool : Store.Pool

/-- How a run ends. -/
inductive Ending where
  | finished
  | misused (misuse : CommandLine.Misuse)
  | failed (failure : Failure)
  /-- The service begins on its address. -/
  | serving (ready : Ready)

/-- What a run has printed, what it warns of, and how it ends. -/
structure Result where
  output : String
  warnings : List Warning
  ending : Ending

/-- The status that the program ends with. A service that is told to stop ends well. -/
def Ending.status : Ending → Nat
  | finished | serving _ => 0
  | failed _ => 1
  | misused _ => 2

/-- A line about an operation. -/
def operationLine (op : Operation) : String :=
  "  " ++ padded 10 op.kind.name ++ " " ++ op.name ++
    (if op.filtering then " filter=[" ++ ", ".intercalate op.columns ++ "]" else "")

/-- What is printed about settings and operations that were tested. -/
def checkReport (ready : Ready) : String :=
  let database := ready.settings.database
  lines
    (["Database: " ++ database.backend.name ++ " (" ++ Config.redactUrl database.url ++ ")",
      "Operations: " ++ toString ready.registry.size] ++
    ready.registry.toList.map operationLine)

/-- Prints what the service is, and begins it if its host is an address. -/
def start (ready : Ready) : String × Ending :=
  let s := ready.settings
  (banner s.host s.port s.database.backend ready.registry.size,
    if Http.isAddress s.host then .serving ready else .failed .address)

/-- Does what the program is told to, with everything ready. -/
def perform (command : Option CommandLine.Command) (ready : Ready) : String × Ending :=
  match command with
  | some .check => (checkReport ready, .finished)
  | some .start | none => start ready

section

variable {m : Type → Type} [Monad m]

/-- Opens the database of some settings. -/
def connect (machine : Machine m) (d : Config.Database) :
    m (Except Store.Error Store.Pool) :=
  match d.backend with
  | .sqlite => Sqlite.connect machine.look d
  | .postgres => Postgres.connect machine.reaches d

/-- Gets everything ready that the options ask for. -/
def prepare (machine : Machine m) (options : CommandLine.Options) :
    m (List Warning × Except Failure Ready) := do
  let (warnings, settings) ← Config.load machine.look machine.home options
  match settings with
  | .error e => return (warnings, .error (.settings e))
  | .ok settings =>
    let (more, registry) := Registry.ofConfig settings.operations
    let warnings := warnings ++ more
    match registry with
    | .error defect => return (warnings, .error (.operations defect))
    | .ok registry =>
      match ← connect machine settings.database with
      | .error e => return (warnings, .error (.database settings.database.backend e))
      | .ok pool => return (warnings, .ok { settings, registry, pool })

/-- The variables that the program is started with and those of the environment file. -/
def variablesWithFile (machine : Machine m) (env : Environment.Variables) :
    m Environment.Variables := do
  match ← machine.look Environment.fileName with
  | .file contents => return Environment.addFile env contents
  | _ => return env

/-- Runs the program with the words of its command line. -/
def run (machine : Machine m) (env : Environment.Variables) (words : List String) :
    m Result := do
  let env ← variablesWithFile machine env
  match CommandLine.parse env.get? words with
  | .help => return ⟨CommandLine.helpText, [], .finished⟩
  | .version => return ⟨CommandLine.versionText, [], .finished⟩
  | .misused misuse => return ⟨"", [], .misused misuse⟩
  | .run command options =>
    let (warnings, ready) ← prepare machine options
    match ready with
    | .error failure => return ⟨"", warnings, .failed failure⟩
    | .ok ready =>
      let (output, ending) := perform command ready
      return ⟨output, warnings, ending⟩

end

end NamedSql.Program
