import NamedSql.Text.Split
/-!
Database URLs without their passwords, as logs and reports show them. The password stands between
the first colon after `://` and the last at-sign; a text that has no such place is shown as it is.
-/
namespace NamedSql.Config

/-- What stands for a password. -/
def hiddenPassword : List Char := "***".toList

/-- A URL as it is shown. -/
def redacted (url : List Char) : List Char :=
  match Text.splitFirst "://".toList url with
  | none => url
  | some (scheme, rest) =>
    match Text.splitLast '@' rest with
    | none => url
    | some (login, host) =>
      match Text.splitFirst [':'] login with
      | none => url
      | some (user, _) => scheme ++ "://".toList ++ user ++ ':' :: hiddenPassword ++ '@' :: host

/-- A URL with three stars for its password. -/
def redactUrl (url : String) : String := String.ofList (redacted url.toList)

end NamedSql.Config
