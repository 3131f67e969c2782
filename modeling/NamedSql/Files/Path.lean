import NamedSql.Text.Split
/-!
Paths of files as texts. A slash parts the components; an empty component and `.` stay where they
are. A path whose first component is `~` lies in the home directory.
-/
namespace NamedSql.Files

/-- The components of a path. -/
def components (path : String) : List String :=
  (Text.splitAll '/' path.toList).map String.ofList

/-- Whether a component leads nowhere. -/
def isIdle (component : String) : Bool := component = "" || component = "."

/-- Components without the idle ones at either end. -/
def withoutIdleEnds (path : List String) : List String :=
  ((path.dropWhile isIdle).reverse.dropWhile isIdle).reverse

/-- A path within a directory. -/
def within (directory path : String) : String :=
  if directory.isEmpty ∨ directory.toList.getLast? = some '/' then directory ++ path
  else directory ++ "/" ++ path

/-- A path with a `~` at its beginning replaced by the home directory. -/
def expandHome (home path : String) : String :=
  match components path with
  | "~" :: rest => within home ("/".intercalate (withoutIdleEnds rest))
  | _ => path

end NamedSql.Files
