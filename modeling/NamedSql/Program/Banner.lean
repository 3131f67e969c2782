import NamedSql.About
import NamedSql.Http.Origin
import NamedSql.Store
/-!
What the program prints when it begins to serve, in colours: where the operations and their
description are to be found, and on which database they run.
-/
namespace NamedSql.Program

/-- A text in a style of the terminal, given by its code. -/
def styled (code s : String) : String := "\x1b[" ++ code ++ "m" ++ s

/-- The end of all styles. -/
def plainStyle : String := styled "0" ""

/-- A text, filled up with blanks to a width. -/
def padded (width : Nat) (s : String) : String :=
  s ++ String.ofList (List.replicate (width - s.length) ' ')

/-- The width of what a line begins with. -/
def labelWidth : Nat := 12

/-- The arrow that a line begins with. -/
def arrow : String := "➜"

/-- A line with a link. -/
def linkLine (colour label link : String) : String :=
  "  " ++ styled colour arrow ++ plainStyle ++ "  " ++ styled "1" (padded labelWidth label) ++
    plainStyle ++ " " ++ link

/-- A line with a remark. -/
def remarkLine (label remark : String) : String :=
  "  " ++ styled "90" arrow ++ "  " ++ padded labelWidth label ++ " " ++ remark ++ plainStyle

/-- Lines, each with its end. -/
def lines (ls : List String) : String := String.join (ls.map (· ++ "\n"))

/-- What is printed when the service begins on an address. -/
def banner (host : String) (port : UInt16) (backend : Store.Backend) (operations : Nat) : String :=
  let shown := if Http.isEveryInterface host then "localhost" else host
  let base := "http://" ++ shown ++ ":" ++ toString port.toNat
  lines (["",
    "  " ++ styled "1" (styled "36" About.title) ++ plainStyle ++ " " ++
      styled "90" ("v" ++ About.version) ++ plainStyle,
    "",
    linkLine "32" "Operations:" (base ++ "/api/v1/operations"),
    linkLine "33" "API docs:" (base ++ "/api/docs")] ++
    (if host = "127.0.0.1" ∨ host = "localhost" then
      [remarkLine "Network:" "use --host 0.0.0.0 to expose"]
    else []) ++
    [remarkLine "Database:" (backend.name ++ " (" ++ toString operations ++ " operations)"), ""])

end NamedSql.Program
