import NamedSql.Config.Description
import NamedSql.Proofs.SeparatorCuts

/-! Passwords in the URLs of databases. A password stands between the first colon behind `://` and the last
at-sign, whatever characters it has itself, and exactly this is what three stars are shown for. Every
text is either the URL of such a login or has no password to show, and then it is shown as it is; so what
is shown does not depend on the password, and showing it again changes nothing. -/
namespace NamedSql.PasswordRedaction
open Config SeparatorCuts

variable {s user after : List Char}

/-- What separates the scheme of a URL from what is behind it. -/
def schemeEnd : List Char := "://".toList

theorem schemeEnd_visible : schemeEnd ≠ [] := List.cons_ne_nil _ _

/-- No part of the separator ends a text that it could be completed from. -/
theorem schemeEnd_across {scheme : List Char} :
    schemeEnd <:+: scheme ++ schemeEnd.dropLast ↔ schemeEnd <:+: scheme := by
  have last : schemeEnd.dropLast.reverse = ['/', ':'] := rfl
  have whole : schemeEnd.reverse = ['/', '/', ':'] := rfl
  -- Read from the end, neither the slash nor the colon begins the separator.
  rw [← List.reverse_infix, List.reverse_append, last, ← @List.reverse_infix _ schemeEnd, whole]
  simp [List.infix_cons_iff, List.cons_prefix_cons]

/-- A URL with a login, by the parts that its separators make of it. -/
structure Login where
  scheme : String
  user : String
  password : String
  host : String
  scheme_free : ¬schemeEnd <:+: scheme.toList
  user_free : ':' ∉ user.toList
  host_free : '@' ∉ host.toList

namespace Login

/-- The text of the URL. -/
def url (l : Login) : String :=
  l.scheme ++ "://" ++ l.user ++ ":" ++ l.password ++ "@" ++ l.host

/-- The same URL with another password. -/
def withPassword (l : Login) (password : String) : Login := { l with password }

end Login

/-- Whether a text has no password to show: it is no URL, or one without a login, or with a login that is
only a name. -/
inductive Passwordless : String → Prop
  | schemeless {url : String} (absent : ¬schemeEnd <:+: url.toList) : Passwordless url
  | loginless {scheme rest : String} (scheme_free : ¬schemeEnd <:+: scheme.toList)
    (absent : '@' ∉ rest.toList) : Passwordless (scheme ++ "://" ++ rest)
  | nameOnly {scheme user host : String} (scheme_free : ¬schemeEnd <:+: scheme.toList)
    (absent : ':' ∉ user.toList) (host_free : '@' ∉ host.toList) :
    Passwordless (scheme ++ "://" ++ user ++ "@" ++ host)

theorem splitFirst_scheme {scheme : List Char} (free : ¬schemeEnd <:+: scheme) (after : List Char) :
    Text.splitFirst "://".toList (scheme ++ ("://".toList ++ after)) = some (scheme, after) :=
  (splitFirst_eq_some_iff schemeEnd_visible).mpr ⟨rfl, mt schemeEnd_across.mp free⟩

theorem splitFirst_colon :
    Text.splitFirst [':'] s = some (user, after) ↔ s = user ++ ':' :: after ∧ ':' ∉ user := by
  rw [splitFirst_eq_some_iff (List.cons_ne_nil _ _)]
  simp [List.singleton_infix_iff]

theorem splitFirst_colon_none : Text.splitFirst [':'] s = none ↔ ':' ∉ s := by
  rw [splitFirst_eq_none_iff (List.cons_ne_nil _ _), List.singleton_infix_iff]

/-- The login of a URL as it is written behind the scheme. -/
private def Login.written (l : Login) : List Char := l.user.toList ++ ':' :: l.password.toList

private theorem url_toList (l : Login) : l.url.toList =
    l.scheme.toList ++ ("://".toList ++ (l.written ++ '@' :: l.host.toList)) := by
  simp [Login.url, Login.written]

/-- The password of a login, and nothing else of it, is shown as three stars. -/
theorem redactUrl_login (l : Login) : redactUrl l.url = (l.withPassword "***").url := by
  have scheme := splitFirst_scheme l.scheme_free (l.written ++ '@' :: l.host.toList)
  have login : Text.splitLast '@' (l.written ++ '@' :: l.host.toList) =
      some (l.written, l.host.toList) := splitLast_eq_some_iff.mpr ⟨rfl, l.host_free⟩
  have user : Text.splitFirst [':'] l.written = some (l.user.toList, l.password.toList) :=
    splitFirst_colon.mpr ⟨rfl, l.user_free⟩
  apply String.toList_injective
  rw [redactUrl, String.toList_ofList, redacted, url_toList, scheme]
  simp only [login, user]
  simp [Login.url, Login.withPassword, hiddenPassword]

theorem redactUrl_passwordless {url : String} (passwordless : Passwordless url) :
    redactUrl url = url := by
  apply String.toList_injective
  rw [redactUrl, String.toList_ofList]
  cases passwordless with
  | schemeless absent =>
    have uncut := (splitFirst_eq_none_iff schemeEnd_visible).mpr absent
    unfold schemeEnd at uncut
    rw [redacted, uncut]
  | @loginless scheme rest free absent =>
    have cut := splitFirst_scheme free rest.toList
    have uncut := splitLast_eq_none_iff.mpr absent
    rw [redacted, String.toList_append, String.toList_append, List.append_assoc, cut]
    simp only [uncut]
  | @nameOnly scheme user host free absent hostFree =>
    have cut := splitFirst_scheme free (user.toList ++ '@' :: host.toList)
    have login : Text.splitLast '@' (user.toList ++ '@' :: host.toList) =
        some (user.toList, host.toList) := splitLast_eq_some_iff.mpr ⟨rfl, hostFree⟩
    have uncut := splitFirst_colon_none.mpr absent
    have written : (scheme ++ "://" ++ user ++ "@" ++ host).toList =
        scheme.toList ++ ("://".toList ++ (user.toList ++ '@' :: host.toList)) := by
      simp
    rw [redacted, written, cut]
    simp only [login, uncut]

/-- Every text that shows a password is the URL of a login. -/
theorem login_or_passwordless (url : String) : (∃ l : Login, l.url = url) ∨ Passwordless url := by
  cases cut : Text.splitFirst schemeEnd url.toList with
  | none => exact Or.inr (.schemeless ((splitFirst_eq_none_iff schemeEnd_visible).mp cut))
  | some parts =>
    obtain ⟨scheme, rest⟩ := parts
    obtain ⟨whole, first⟩ := (splitFirst_eq_some_iff schemeEnd_visible).mp cut
    have free := mt schemeEnd_across.mpr first
    cases login : Text.splitLast '@' rest with
    | none =>
      right
      have same : url = String.ofList scheme ++ "://" ++ String.ofList rest := by
        apply String.toList_injective
        simp [whole, schemeEnd]
      rw [same]
      apply Passwordless.loginless
      · simpa using free
      · simpa using splitLast_eq_none_iff.mp login
    | some parts =>
      obtain ⟨user, host⟩ := parts
      obtain ⟨rfl, hostFree⟩ := splitLast_eq_some_iff.mp login
      cases named : Text.splitFirst [':'] user with
      | none =>
        right
        have same : url =
            String.ofList scheme ++ "://" ++ String.ofList user ++ "@" ++ String.ofList host := by
          apply String.toList_injective
          simp [whole, schemeEnd]
        rw [same]
        apply Passwordless.nameOnly
        · simpa using free
        · simpa using splitFirst_colon_none.mp named
        · simpa using hostFree
      | some parts =>
        left
        obtain ⟨user, password⟩ := parts
        obtain ⟨rfl, userFree⟩ := splitFirst_colon.mp named
        refine ⟨⟨String.ofList scheme, String.ofList user, String.ofList password,
          String.ofList host, by simpa using free, by simpa using userFree,
          by simpa using hostFree⟩, ?_⟩
        apply String.toList_injective
        simp [Login.url, whole, schemeEnd]

/-- Showing once is enough. -/
theorem redactUrl_redactUrl (url : String) : redactUrl (redactUrl url) = redactUrl url := by
  rcases login_or_passwordless url with ⟨l, rfl⟩ | passwordless
  · rw [redactUrl_login, redactUrl_login]
    rfl
  · rw [redactUrl_passwordless passwordless, redactUrl_passwordless passwordless]

/-- What a log shows of a URL does not depend on its password. -/
theorem describedUrl_withPassword (l : Login) (password : String) :
    describedUrl (l.withPassword password).url = describedUrl l.url := by
  rw [describedUrl, describedUrl, redactUrl_login, redactUrl_login]
  rfl

/-- What is promised of the URL of a login: how it is shown, and that neither this nor what a log shows
of the settings and the file that it stands in depends on its password. -/
structure Hides (l : Login) : Prop where
  shown : redactUrl l.url = l.scheme ++ "://" ++ l.user ++ ":***@" ++ l.host
  independent : ∀ password, redactUrl (l.withPassword password).url = redactUrl l.url
  settings : ∀ (d : Database) (password : String),
    { d with url := (l.withPassword password).url }.describe = { d with url := l.url }.describe
  file : ∀ (d : DatabaseSection) (password : String),
    { d with url := some (l.withPassword password).url }.describe =
      { d with url := some l.url }.describe

theorem login_hides (l : Login) : Hides l where
  shown := by
    rw [redactUrl_login]
    apply String.toList_injective
    simp [Login.url, Login.withPassword]
  independent password := by
    rw [redactUrl_login, redactUrl_login]
    rfl
  settings d password := by
    rw [Database.describe, Database.describe]
    simp only [describedUrl_withPassword]
  file d password := by
    rw [DatabaseSection.describe, DatabaseSection.describe]
    simp only [describedOption, describedUrl_withPassword]

/-- **Redaction hides the password and nothing else.** Every text is the URL of a login, which is shown
with three stars for its password, or shows none and is left as it is; and once is enough. -/
theorem redaction_hides_password :
    (∀ l : Login, Hides l) ∧ (∀ url, Passwordless url → redactUrl url = url) ∧
      (∀ url, (∃ l : Login, l.url = url) ∨ Passwordless url) ∧
      ∀ url, redactUrl (redactUrl url) = redactUrl url :=
  ⟨login_hides, fun _ passwordless => redactUrl_passwordless passwordless, login_or_passwordless,
    redactUrl_redactUrl⟩

/-- A login whose password has all the separators in it. -/
def crowdedLogin : Login where
  scheme := "postgres"
  user := "app"
  password := "s3@c:r://t"
  host := "db:5432/main"
  scheme_free := by decide +kernel
  user_free := by decide +kernel
  host_free := by decide +kernel

/-- A URL without a login, in which what looks like one stands in front of the scheme's end. -/
def misplacedLogin : String := "app:s3cret@file://notes.db"

theorem crowdedLogin_hidden :
    redactUrl "postgres://app:s3@c:r://t@db:5432/main" = "postgres://app:***@db:5432/main" ∧
      Passwordless misplacedLogin ∧ redactUrl misplacedLogin = misplacedLogin := by
  have passwordless : Passwordless ("app:s3cret@file" ++ "://" ++ "notes.db") :=
    .loginless (by decide +kernel) (by decide +kernel)
  refine ⟨?_, passwordless, redaction_hides_password.2.1 misplacedLogin passwordless⟩
  exact (redaction_hides_password.1 crowdedLogin).shown

end NamedSql.PasswordRedaction
