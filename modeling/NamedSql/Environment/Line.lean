import NamedSql.Text.Blank
/-!
The lines of an environment file. A line goes on while a quote is open or a backslash stands at its
end, so that one line of the file's meaning may take several lines of its text. A number sign behind
a blank cuts a line off; a line that begins with one says nothing.
-/
namespace NamedSql.Environment

/-- What the characters read so far have left open. -/
inductive Pending where
  | nothing
  /-- The last character was a blank. -/
  | blank
  | escape
  | single
  | singleEscape
  | double
  | doubleEscape
deriving Repr, DecidableEq

/-- What one more character leaves open. -/
def Pending.next (c : Char) : Pending → Pending
  | nothing =>
    if Text.isBlank c && c != '\n' && c != '\r' then blank else opened
  | blank => opened
  | escape => nothing
  | single => if c = '\\' then singleEscape else if c = '\'' then nothing else single
  | singleEscape => single
  | double => if c = '\\' then doubleEscape else if c = '"' then nothing else double
  | doubleEscape => double
where
  /-- What a character opens outside quotes. -/
  opened : Pending :=
    match c with
    | '\\' => escape
    | '"' => double
    | '\'' => single
    | _ => nothing

/-- Reads characters up to a comment: what stands in front of it, and what is left open unless there
is one. -/
def upToComment : Pending → List Char → List Char × Option Pending
  | p, [] => ([], some p)
  | p, c :: rest =>
    if p = .blank ∧ c = '#' then ([], none)
    else
      let (before, left) := upToComment (p.next c) rest
      (c :: before, left)

/-- A text cut behind every line feed. -/
def textLines (s : List Char) : List (List Char) :=
  s.foldr (fun c lines =>
    if c = '\n' then ['\n'] :: lines
    else match lines with
      | [] => [[c]]
      | line :: more => (c :: line) :: more) []

/-- A line without the line feed at its end. -/
def withoutLineEnd (line : List Char) : List Char :=
  match line.reverse with
  | '\n' :: '\r' :: rest => rest.reverse
  | '\n' :: rest => rest.reverse
  | _ => line

/-- The lines of the file's meaning, from the lines of its text. The one begun before is given with
what it has left open. What is still open at the end is no line. -/
def joined (begun : List Char) (p : Pending) : List (List Char) → List (Option (List Char))
  | [] => if p = .nothing then [] else [none]
  | line :: rest =>
    let whole := begun ++ line
    if (Text.trimStart whole).head? = some '#' then some [] :: joined [] .nothing rest
    else match upToComment p line with
      | (before, none) => some (begun ++ before) :: joined [] .nothing rest
      | (_, some .nothing) => some (withoutLineEnd whole) :: joined [] .nothing rest
      | (_, some left) => joined whole left rest

/-- The lines of an environment file. A byte order mark at the beginning is passed over. -/
def linesOf (contents : String) : List (Option (List Char)) :=
  let s := match contents.toList with
    | '\ufeff' :: rest => rest
    | s => s
  joined [] .nothing (textLines s)

end NamedSql.Environment
