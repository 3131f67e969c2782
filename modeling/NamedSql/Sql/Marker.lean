/-!
The filter marker, `filterBy` between braces in any case. It is looked for in the whole text of an
operation's statement, literals and comments included, and markers do not overlap.
-/
namespace NamedSql.Sql

/-- The marker as it is usually written. -/
def marker : List Char := ['\x7b', 'f', 'i', 'l', 't', 'e', 'r', 'B', 'y', '\x7d']

/-- Whether a text begins with the marker, ASCII letters of either case being alike. -/
def beginsWithMarker (s : List Char) : Bool :=
  (s.take marker.length).map Char.toLower == marker.map Char.toLower

/-- The text before the first marker, and the texts between the markers and after the last. -/
def cutAtMarkers : List Char → List Char × List (List Char)
  | [] => ([], [])
  | c :: s =>
    if beginsWithMarker (c :: s) then
      let (before, after) := cutAtMarkers (s.drop (marker.length - 1))
      ([], before :: after)
    else
      let (before, after) := cutAtMarkers s
      (c :: before, after)
termination_by s => s.length
decreasing_by all_goals (simp; try omega)

/-- How many markers a text has. -/
def markerCount (sql : String) : Nat := (cutAtMarkers sql.toList).2.length

/-- Whether a text has a marker. -/
def hasMarker (sql : String) : Bool := 0 < markerCount sql

/-- The text with every marker replaced; nothing in the replacement has a meaning. -/
def replaceMarkers (sql replacement : String) : String :=
  let (before, after) := cutAtMarkers sql.toList
  String.ofList (before ++ after.flatMap (replacement.toList ++ ·))

end NamedSql.Sql
