/-!
Patterns of texts: a percent sign stands for any characters, an underscore for one character, and
ASCII letters of either case for each other. A pattern is followed through a text from all the
places it may have reached at once, so that no pattern takes long.
-/
namespace NamedSql.Sqlite

/-- A text and what is left of it after each of its characters. -/
def suffixes : List Char → List (List Char)
  | [] => [[]]
  | c :: rest => (c :: rest) :: suffixes rest

/-- What may be left of the text after one more character of the pattern, the longest first. -/
def likeStep (left : List (List Char)) (p : Char) : List (List Char) :=
  if p = '%' then
    match left with
    | [] => []
    | longest :: _ => suffixes longest
  else left.filterMap fun
    | [] => none
    | c :: rest => if p = '_' ∨ c.toLower = p.toLower then some rest else none

/-- Whether a text matches a pattern. -/
def isLike (text pattern : String) : Bool := [] ∈ pattern.toList.foldl likeStep [text.toList]

end NamedSql.Sqlite
