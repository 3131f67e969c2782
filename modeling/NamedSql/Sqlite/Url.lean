import NamedSql.Http.Form
import NamedSql.Text.Quoted
import NamedSql.Text.Utf8.Fault
/-!
The URLs of SQLite databases: the name of a file, and behind a question mark how it is opened. The
scheme may be left out. The name `:memory:` stands for a database in memory.
-/
namespace NamedSql.Sqlite

/-- Which database is opened, and how. -/
structure Source where
  /-- The file; an empty name is a file that nobody else sees. -/
  file : String
  inMemory : Bool := false
  readOnly : Bool := false
  /-- Whether the file is made if it is missing. -/
  creates : Bool := false
  sharedCache : Bool := false
  immutable : Bool := false
  /-- The part of SQLite that reads and writes files. -/
  vfs : Option String := none
deriving Repr, DecidableEq

/-- Why a text is no URL of a database. -/
inductive UrlFault where
  | badName (fault : Text.Utf8.Fault)
  | badValue (parameter value : String)
  | unknownParameter (parameter : String)
deriving Repr, DecidableEq

/-- The text of a fault. -/
def UrlFault.message : UrlFault → String
  | badName fault => fault.message
  | badValue parameter value =>
    "unknown value " ++ Text.quoted value ++ " for `" ++ parameter ++ "`"
  | unknownParameter parameter =>
    "unknown query parameter `" ++ parameter ++ "` while parsing connection URL"

namespace Source

/-- Sets a parameter. -/
def set (s : Source) (parameter value : String) : Except UrlFault Source :=
  match parameter, value with
  | "mode", "ro" => .ok { s with readOnly := true }
  | "mode", "rw" => .ok s
  | "mode", "rwc" => .ok { s with creates := true }
  | "mode", "memory" => .ok { s with inMemory := true, sharedCache := true }
  | "cache", "private" => .ok { s with sharedCache := false }
  | "cache", "shared" => .ok { s with sharedCache := true }
  | "immutable", "true" | "immutable", "1" => .ok { s with immutable := true }
  | "immutable", "false" | "immutable", "0" => .ok { s with immutable := false }
  | "vfs", vfs => .ok { s with vfs := some vfs }
  | _, _ =>
    if parameter ∈ ["mode", "cache", "immutable"] then .error (.badValue parameter value)
    else .error (.unknownParameter parameter)

/-- The database of a name. -/
def ofName (name : List Char) : Except UrlFault Source :=
  if name = ":memory:".toList then .ok { file := "", inMemory := true, sharedCache := true }
  else
    let bytes := Http.percentDecode (Text.Utf8.encode (String.ofList name))
    match Text.Utf8.decode? bytes with
    | some file => .ok { file }
    | none => .error (.badName ((Text.Utf8.fault? bytes).getD (.incomplete 0)))

end Source

/-- A text without a word that it begins with, however often. -/
def withoutLeading (word : List Char) (s : List Char) : List Char :=
  match word, word.isPrefixOf? s with
  | [], _ => s
  | _ :: _, none => s
  | _ :: _, some rest =>
    if rest.length < s.length then withoutLeading word rest else s
termination_by s.length

/-- The database of a URL. -/
def Source.ofUrl (url : String) : Except UrlFault Source :=
  let url := withoutLeading "sqlite:".toList (withoutLeading "sqlite://".toList url.toList)
  match Text.splitFirst ['?'] url with
  | none => ofName url
  | some (name, query) => do
    (Http.Form.pairs (String.ofList query)).foldlM (fun s (parameter, value) =>
      s.set parameter value) (← ofName name)

end NamedSql.Sqlite
