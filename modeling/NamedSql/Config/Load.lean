import NamedSql.About
import NamedSql.Config.Settings
import NamedSql.Files.Tree
/-!
Loading the settings. The file of the user's profile, if there is one, is the lower layer. Over it
comes the file that the command line names, which has to be there, or else the file of the working
directory, if there is one.

How files are looked up is left open, so that they may come from a disk or from memory.
-/
namespace NamedSql.Config

/-- Why there are no settings. -/
inductive LoadError where
  | unreadable (path reason : String)
  | unparsable (path : String)
  | missing (path : String)
  | invalid (defect : Defect)
deriving DecidableEq, Repr

/-- The text of an error. -/
def LoadError.message : LoadError → String
  | unreadable path _ => "Failed to read config file: " ++ path
  | unparsable path => "Failed to parse config file: " ++ path
  | missing path => "Config file not found: " ++ path
  | invalid defect => defect.message

/-- What an error comes from, if it is known in more detail. -/
def LoadError.reason? : LoadError → Option String
  | unreadable _ reason => some reason
  | _ => none

/-- What a configuration file is called. -/
def fileName : String := About.command ++ ".json"

/-- The path of the profile's file. -/
def profilePath (home : String) : String :=
  Files.within (Files.within home ("." ++ About.command)) fileName

/-- Puts the file at a path over the ones before it, with a warning of what nothing reads. -/
def addFile (path : String) (entry : Files.Entry) (lower : File) :
    List Warning × Except LoadError File :=
  match entry with
  | .missing => ([], .error (.missing path))
  | .directory => ([], .error (.unreadable path "Is a directory (os error 21)"))
  | .binary => ([], .error (.unreadable path "stream did not contain valid UTF-8"))
  | .file contents =>
    match File.ofText? contents with
    | none => ([], .error (.unparsable path))
    | some upper =>
      (if upper.unknown.isEmpty then [] else [.unknownFields upper.unknown],
        .ok (lower.overlay upper))

/-- Puts the file that the command line names, or that of the working directory, over the others. -/
def addOverlay {m : Type → Type} [Monad m] (look : String → m Files.Entry) (home : String)
    (config : Option String) (lower : File) : m (List Warning × Except LoadError File) := do
  match config with
  | some path =>
    let path := Files.expandHome home path
    return addFile path (← look path) lower
  | none =>
    let entry ← look fileName
    return if entry.isFound then addFile fileName entry lower else ([], .ok lower)

/-- All the files, each over the ones before it. -/
def loadFiles {m : Type → Type} [Monad m] (look : String → m Files.Entry) (home : String)
    (config : Option String) : m (List Warning × Except LoadError File) := do
  let path := profilePath home
  let entry ← look path
  let (warnings, profile) :=
    if entry.isFound then addFile path entry {} else ([], .ok {})
  match profile with
  | .error e => return (warnings, .error e)
  | .ok profile =>
    let (more, file) ← addOverlay look home config profile
    return (warnings ++ more, file)

/-- The settings of the files and a command line, if they have no defect. -/
def settled (options : CommandLine.Options) (file : File) :
    List Warning × Except LoadError Settings :=
  let settings := Settings.ofLayers file options
  match settings.defect? with
  | some defect => ([], .error (.invalid defect))
  | none => (settings.warnings, .ok settings)

/-- Loads the settings. -/
def load {m : Type → Type} [Monad m] (look : String → m Files.Entry) (home : String)
    (options : CommandLine.Options) : m (List Warning × Except LoadError Settings) := do
  let (warnings, file) ← loadFiles look home options.config
  match file with
  | .error e => return (warnings, .error e)
  | .ok file =>
    let (more, settings) := settled options file
    return (warnings ++ more, settings)

end NamedSql.Config
