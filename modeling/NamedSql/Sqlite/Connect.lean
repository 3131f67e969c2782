import NamedSql.Config.Settings
import NamedSql.Files.Tree
import NamedSql.Sqlite.Url
import NamedSql.Store.Pool
/-!
Opening SQLite databases. A database in memory, or in a file that nobody else sees, can always be
opened. A file has to be there, or to be made in a directory that is. A database in memory has a
single connection, so that every call sees the same one.
-/
namespace NamedSql.Sqlite

/-- The parts that can read and write files. -/
def vfsNames : List String := ["unix", "unix-none", "unix-dotfile", "unix-excl"]

/-- The directory that a file is in. -/
def directoryOf (file : String) : String :=
  match Text.splitLast '/' file.toList with
  | none => "."
  | some ([], _) => "/"
  | some (directory, _) => String.ofList directory

/-- What is answered about a file that cannot be opened. -/
def cannotOpen : String := "(code: 14) unable to open database file"

/-- Why a database cannot be opened, if it cannot. -/
def Source.obstacle? {m : Type → Type} [Monad m] (look : String → m Files.Entry) (s : Source) :
    m (Option String) := do
  match s.vfs.filter (· ∉ vfsNames) with
  | some vfs => return some ("(code: 1) no such vfs: " ++ vfs)
  | none =>
    if s.inMemory ∨ s.file.isEmpty then return none
    match ← look s.file with
    | .file _ | .binary => return none
    | .directory => return some cannotOpen
    | .missing =>
      if !s.creates ∨ s.readOnly then return some cannotOpen
      match ← look (directoryOf s.file) with
      | .directory => return if s.file.endsWith "/" then some cannotOpen else none
      | _ => return some cannotOpen

/-- After how many seconds a connection that is not used is closed. -/
def idleTimeout : UInt64 := 600

/-- The connections that settings ask for. -/
def poolOf (d : Config.Database) : Store.Pool where
  backend := .sqlite
  most := if Text.contains ":memory:".toList d.url.toList then 1 else d.effectiveMaxConnections
  least := 0
  acquireTimeout := d.effectiveAcquireTimeout
  idleTimeout := idleTimeout
  startup := none

/-- Opens the database of some settings. -/
def connect {m : Type → Type} [Monad m] (look : String → m Files.Entry) (d : Config.Database) :
    m (Except Store.Error Store.Pool) := do
  if d.url.isEmpty then return .error (.config "SQLite URL is required")
  match Source.ofUrl d.url with
  | .error fault =>
    return .error (.config
      ("Invalid SQLite URL: " ++ (Store.Failure.badSetting fault.message).message))
  | .ok source =>
    match ← source.obstacle? look with
    | some reason => return .error (.failed .sqlite (.refused reason))
    | none => return .ok (poolOf d)

end NamedSql.Sqlite
