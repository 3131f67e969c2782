import NamedSql.Files.Path
/-!
What is found at a path, and trees of files held in memory. A tree is seen from the directory that
relative paths start from; all directories above its files exist.
-/
namespace NamedSql.Files

/-- What is found at a path. -/
inductive Entry where
  | missing
  | directory
  | file (contents : String)
  /-- A file whose contents are no text. -/
  | binary
deriving Repr, DecidableEq

/-- Whether anything is found. -/
def Entry.isFound : Entry → Bool
  | missing => false
  | _ => true

/-- Files, and directories that hold none, by their components. -/
structure Tree where
  files : List (List String × String)
  directories : List (List String) := []

/-- Where a path has led to: so many steps above the start, and down from there. -/
structure Place where
  above : Nat := 0
  below : List String := []

namespace Tree

/-- The tree of files under relative paths. -/
def ofList (files : List (String × String)) : Tree where
  files := files.map fun (path, contents) => ((components path).filter (!isIdle ·), contents)

/-- Whether a directory is at a place. Above the start nothing but the way up is known. -/
def isDirectory (t : Tree) (place : Place) : Bool :=
  if place.above ≠ 0 then place.below.isEmpty
  else place.below.isEmpty || place.below ∈ t.directories ||
    t.files.any fun (path, _) => place.below.isPrefixOf path && place.below != path

/-- What is at a place. -/
def entry (t : Tree) (place : Place) : Entry :=
  if t.isDirectory place then .directory
  else if place.above ≠ 0 then .missing
  else match t.files.lookup place.below with
    | some contents => .file contents
    | none => .missing

/-- The place that one component leads to. -/
def step (place : Place) (component : String) : Place :=
  if isIdle component then place
  else if component = ".." then
    match place.below with
    | [] => { place with above := place.above + 1 }
    | below => { place with below := below.dropLast }
  else { place with below := place.below ++ [component] }

/-- What a path leads to from a place. All but its end has to be directories. -/
def follow (t : Tree) : Place → List String → Entry
  | place, [] => t.entry place
  | place, component :: rest =>
    if t.isDirectory place then t.follow (step place component) rest else .missing

/-- What is found at a path. Of the paths from the root only the root itself is known. -/
def look (t : Tree) (path : String) : Entry :=
  match components path with
  | [""] => .missing
  | "" :: rest => if rest.all isIdle then .directory else .missing
  | path => t.follow {} path

end Tree

end NamedSql.Files
