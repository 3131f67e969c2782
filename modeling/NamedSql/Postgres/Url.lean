import NamedSql.Http.Form
import NamedSql.Store
import NamedSql.Text.Quoted
import NamedSql.Text.Utf8.Fault
/-!
The URLs of PostgreSQL databases: a scheme, then between slashes the user, the host and the port,
the name of the database, and behind a question mark further parameters.
-/
namespace NamedSql.Postgres

/-- Which server is asked, as whom and for which database. -/
structure Address where
  user : Option String
  host : String
  port : Option Nat
  database : Option String
  parameters : List (String × String)
deriving Repr, DecidableEq

/-- Why a text is no URL of a database. -/
inductive UrlFault where
  /-- There is no scheme. -/
  | relative
  | badPort
  | badName (fault : Text.Utf8.Fault)
  | badMode (value : String)
deriving Repr, DecidableEq

/-- The text of a fault. -/
def UrlFault.message : UrlFault → String
  | relative => "relative URL without a base"
  | badPort => "invalid port number"
  | badName fault => fault.message
  | badMode value =>
    (Store.Failure.badSetting ("unknown value " ++ Text.quoted value ++ " for `ssl_mode`")).message

namespace Address

/-- A control character or a blank, which may stand around a URL. -/
def isPadding (c : Char) : Bool := c.toNat ≤ 32

/-- The characters of a URL, without what is around it and without line ends and tabs. -/
def stripped (s : List Char) : List Char :=
  (((s.dropWhile isPadding).reverse.dropWhile isPadding).reverse).filter
    (· ∉ ['\t', '\n', '\r'])

/-- What follows the scheme: a letter, then letters, digits and `+`, `-`, `.`, then a colon. -/
def afterScheme? (s : List Char) : Option (List Char) :=
  match s, s.dropWhile fun c => c.isAlphanum || c ∈ ['+', '-', '.'] with
  | first :: _, ':' :: rest => if first.isAlpha then some rest else none
  | _, _ => none

/-- The text of percent-encoded characters. -/
def decoded (s : List Char) : Except UrlFault String :=
  let bytes := Http.percentDecode (Text.Utf8.encode (String.ofList s))
  match Text.Utf8.decode? bytes with
  | some text => .ok text
  | none => .error (.badName ((Text.Utf8.fault? bytes).getD (.incomplete 0)))

/-- A text that is decoded, unless it is empty. -/
def decodedUnlessEmpty (s : List Char) : Except UrlFault (Option String) :=
  if s.isEmpty then .ok none else some <$> decoded s

/-- The part of the host and that of the port. A host in brackets may have colons in it. -/
def splitPort (s : List Char) : List Char × List Char :=
  match s with
  | '[' :: _ => (s.takeWhile (· != ']') ++ [']'], (s.dropWhile (· != ']')).drop 1)
  | _ => (s.takeWhile (· != ':'), s.dropWhile (· != ':'))

/-- The number of a port behind a colon. -/
def port? (s : List Char) : Except UrlFault (Option Nat) :=
  match s with
  | [] | [':'] => .ok none
  | ':' :: digits =>
    let n : Nat := digits.foldl (fun n c => n * 10 + (c.toNat - 48)) 0
    if digits.all Char.isDigit ∧ n < UInt16.size then .ok (some n) else .error .badPort
  | _ => .error .badPort

/-- How a connection may be encrypted. -/
def encryptionModes : List String :=
  ["disable", "allow", "prefer", "require", "verify-ca", "verify-full"]

/-- Refuses parameters that ask for an unknown way of encryption. -/
def checkMode : List (String × String) → Except UrlFault Unit
  | [] => .ok ()
  | (parameter, value) :: rest =>
    if parameter ∈ ["sslmode", "ssl-mode"] ∧ value.map Char.toLower ∉ encryptionModes then
      .error (.badMode value)
    else checkMode rest

/-- Reads what follows the scheme. -/
def ofParts (s : List Char) : Except UrlFault Address := do
  let s := s.takeWhile (· != '#')
  let path := s.takeWhile (· != '?')
  let parameters := Http.Form.pairs (String.ofList ((s.dropWhile (· != '?')).drop 1))
  let (authority, path) := match path with
    | '/' :: '/' :: rest => (rest.takeWhile (· != '/'), rest.dropWhile (· != '/'))
    | path => ([], path)
  let (login, place) := (Text.splitLast '@' authority).getD ([], authority)
  let (host, port) := splitPort place
  let port ← port? port
  let user ← decodedUnlessEmpty (login.takeWhile (· != ':'))
  let database ← decodedUnlessEmpty (path.dropWhile (· == '/'))
  checkMode parameters
  return { user, host := String.ofList host, port, database, parameters }

/-- The address of a URL. -/
def ofUrl (url : String) : Except UrlFault Address :=
  match afterScheme? (stripped url.toList) with
  | none => .error .relative
  | some rest => ofParts rest

end Address

end NamedSql.Postgres
