import NamedSql.Text.Alphanumeric
import NamedSql.Text.Blank
/-!
The assignments of an environment file: a name, an equals sign and a value. In the value quotes
group, a backslash escapes and a dollar sign puts in what another name stands for; single quotes
keep all that from happening. What follows a blank has to be a comment.
-/
namespace NamedSql.Environment

/-- Where in a value its reader is. -/
inductive Mode where
  | plain
  | escape
  | single
  /-- In a name after a dollar sign, of which these characters are read, in reverse. -/
  | name (read : List Char)
  /-- In a name in braces. -/
  | braced (read : List Char)
  /-- Behind the value, where only a comment may follow. -/
  | ending
  | comment
deriving Repr, DecidableEq

/-- The reader of a value: its mode, whether double quotes are open, and what it has read, in
reverse. -/
structure ValueReader where
  mode : Mode := .plain
  quoted : Bool := false
  done : List Char := []

namespace ValueReader

/-- Adds a character to the value. -/
def push (r : ValueReader) (c : Char) : ValueReader :=
  { r with mode := .plain, done := c :: r.done }

/-- Adds what the name stands for whose characters were read. -/
def substitute (value : String → String) (r : ValueReader) (read : List Char) : ValueReader :=
  { r with mode := .plain
           done := (value (String.ofList read.reverse)).toList.reverse ++ r.done }

/-- Reads a character that nothing before it has changed the meaning of. -/
def stepPlain (r : ValueReader) (c : Char) : ValueReader :=
  if c = '$' then { r with mode := .name [] }
  else if c = '"' then { r with quoted := !r.quoted }
  else if c = '\\' then { r with mode := .escape }
  else if r.quoted then r.push c
  else if c = '\'' then { r with mode := .single }
  else if c = ' ' ∨ c = '\t' then { r with mode := .ending }
  else r.push c

/-- Reads a character. -/
def step (value : String → String) (r : ValueReader) (c : Char) : Option ValueReader :=
  match r.mode with
  | .plain => some (r.stepPlain c)
  | .escape =>
    if c ∈ ['\\', '\'', '"', '$', ' '] then some (r.push c)
    else if c = 'n' then some (r.push '\n')
    else none
  | .single =>
    if c = '\'' then some { r with mode := .plain } else some { r with done := c :: r.done }
  | .name read =>
    if Text.isAlphanumeric c then some { r with mode := .name (c :: read) }
    else if c = '\x7b' ∧ read.isEmpty then some { r with mode := .braced [] }
    else
      let r := r.substitute value read
      some (if c = '$' then { r with mode := .name [] } else r.push c)
  | .braced read =>
    if c = '\x7d' then some (r.substitute value read)
    else some { r with mode := .braced (c :: read) }
  | .ending =>
    if c = ' ' ∨ c = '\t' then some r
    else if c = '#' then some { r with mode := .comment }
    else none
  | .comment => some r

/-- The value, if nothing is left open. -/
def result (value : String → String) (r : ValueReader) : Option String :=
  if r.quoted then none
  else match r.mode with
    | .single | .braced _ => none
    | .name read => some (String.ofList (r.substitute value read).done.reverse)
    | _ => some (String.ofList r.done.reverse)

end ValueReader

/-- Reads a value, in which `value` says what a name stands for. -/
def readValue? (value : String → String) (s : List Char) : Option String := do
  (← s.foldlM (ValueReader.step value) {}).result value

/-- A character that a name may have behind its first one. -/
def isNameChar (c : Char) : Bool := c.isAlphanum || c = '_' || c = '.'

/-- Reads a name, with what follows it: a letter or an underscore, then letters, digits, underscores
and points. -/
def readName? (s : List Char) : Option (String × List Char) :=
  match s with
  | [] => none
  | c :: _ =>
    if c.isAlpha ∨ c = '_' then
      some (String.ofList (s.takeWhile isNameChar), Text.trimStart (s.dropWhile isNameChar))
    else none

/-- Reads a name and the equals sign behind it, with what follows. The word `export` may stand in
front; it may also be the name. -/
def readTarget? (s : List Char) : Option (String × List Char) := do
  match ← readName? s with
  | (name, '=' :: rest) => return (name, rest)
  | ("export", rest) =>
    match ← readName? rest with
    | (name, '=' :: rest) => return (name, rest)
    | _ => none
  | _ => none

/-- What a line does. -/
inductive Effect where
  | nothing
  | assign (name value : String)
deriving Repr, DecidableEq

/-- Reads a line. -/
def readLine? (value : String → String) (line : List Char) : Option Effect := do
  let line := Text.trim line
  if line.isEmpty ∨ line.head? = some '#' then return .nothing
  let (name, rest) ← readTarget? line
  let rest := Text.trimStart rest
  if rest.isEmpty ∨ rest.head? = some '#' then return .assign name ""
  return .assign name (← readValue? value rest)

end NamedSql.Environment
