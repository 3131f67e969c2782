import NamedSql.Environment.Assignment
import NamedSql.Environment.Line
import NamedSql.Record
import NamedSql.Text.Split
/-!
The variables that the program is started with, and those that a file adds. A variable that is there
keeps its value. At the first line of the file that cannot be read the rest of it is left out.
-/
namespace NamedSql.Environment

/-- The values of variables by name. -/
abbrev Variables := Record String

/-- The variables with one more, if it is not there. -/
def addVariable (env : Variables) (name value : String) : Variables :=
  if env.contains name then env else env.insert name value

/-- The variables with those of some lines. -/
def addLines (env : Variables) : List (Option (List Char)) → Variables
  | [] => env
  | line :: rest =>
    match line.bind (readLine? fun name => (env.get? name).getD "") with
    | none => env
    | some .nothing => addLines env rest
    | some (.assign name value) => addLines (addVariable env name value) rest

/-- The variables with those of a file. -/
def addFile (env : Variables) (contents : String) : Variables :=
  addLines env (linesOf contents)

/-- The longest runs of the characters that a test lets through. -/
def runs (isInner : Char → Bool) (s : List Char) : List String :=
  let cut := s.map fun c => if isInner c then c else '\n'
  ((Text.splitAll '\n' cut).filter (!·.isEmpty)).map String.ofList

/-- All that may be the name of a variable in a file. -/
def mentioned (contents : String) : List String :=
  let s := contents.toList
  runs isNameChar s ++ runs Text.isAlphanumeric s ++ runs (fun c => c != '\x7b' && c != '\x7d') s

/-- What the file is called. -/
def fileName : String := ".env"

end NamedSql.Environment
