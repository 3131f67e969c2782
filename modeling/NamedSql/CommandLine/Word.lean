import NamedSql.Text.Split
/-!
The words of a command line by their shape. A word that begins with two dashes names an option, one
that begins with a single dash names options by their letters, and all others stand for themselves;
so does a single dash.
-/
namespace NamedSql.CommandLine

/-- A word by its shape. -/
inductive Word where
  /-- Two dashes and nothing else, after which no word is an option. -/
  | escape
  /-- An option by name, with the value after the first `=`. -/
  | long (name : String) (value : Option String)
  /-- An option by letter, with what follows the letter. -/
  | short (letter : Char) (rest : List Char)
  | plain (s : String)
deriving Repr, DecidableEq

/-- The shape of a word. -/
def Word.ofText (s : String) : Word :=
  match s.toList with
  | ['-', '-'] => escape
  | '-' :: '-' :: option =>
    match Text.splitFirst ['='] option with
    | some (name, value) => long (String.ofList name) (some (String.ofList value))
    | none => long (String.ofList option) none
  | '-' :: letter :: rest => short letter rest
  | _ => plain s

end NamedSql.CommandLine
