import NamedSql.Json.Number
import NamedSql.Json.Text
/-!
The tokens of a JSON text. The text is read one character at a time, each in one of three states:
between tokens, inside a word (a numeral or a name) or inside quotes.
-/
namespace NamedSql.Json

/-- A token of a JSON text. A number beyond every double and a text with an unpaired surrogate are
kept as tokens without a value. -/
inductive Token where
  | openList
  | closeList
  | openObject
  | closeObject
  | comma
  | colon
  | null
  | bool (b : Bool)
  | number (n : Option Number)
  | text (s : Option String)

namespace Token

/-- Where a reader stands in the text; what it has read of a token is in reverse. -/
inductive State where
  | between
  | word (read : List Char)
  | quoted (read : List Char)
  | escaped (read : List Char)

/-- The token of one character. -/
def mark? (c : Char) : Option Token :=
  match c with
  | '[' => some openList
  | ']' => some closeList
  | '\x7b' => some openObject
  | '\x7d' => some closeObject
  | ',' => some comma
  | ':' => some colon
  | _ => none

/-- The blanks of JSON. -/
def isBlank (c : Char) : Bool := c = ' ' || c = '\t' || c = '\n' || c = '\r'

/-- The token that a word spells. -/
def ofWord? (word : List Char) : Option Token :=
  if word = ['n', 'u', 'l', 'l'] then some null
  else if word = ['t', 'r', 'u', 'e'] then some (bool true)
  else if word = ['f', 'a', 'l', 's', 'e'] then some (bool false)
  else (Number.read? word).map number

/-- The tokens read so far, the last first, and the state after them. -/
abbrev Reader := List Token × State

/-- Reads a character between tokens. -/
def begin (tokens : List Token) (c : Char) : Reader :=
  if isBlank c then (tokens, .between)
  else if c = '"' then (tokens, .quoted [])
  else match mark? c with
    | some token => (token :: tokens, .between)
    | none => (tokens, .word [c])

/-- Reads a character. A word ends before a blank, a quote or a mark. -/
def step (reader : Reader) (c : Char) : Option Reader :=
  match reader with
  | (tokens, .between) => some (begin tokens c)
  | (tokens, .word read) =>
    if isBlank c || c = '"' || (mark? c).isSome then do
      let token ← ofWord? read.reverse
      return begin (token :: tokens) c
    else some (tokens, .word (c :: read))
  | (tokens, .quoted read) =>
    if c = '"' then do
      let s ← Text.unescape? read.reverse
      return (text s :: tokens, .between)
    else if c = '\\' then some (tokens, .escaped (c :: read))
    else some (tokens, .quoted (c :: read))
  | (tokens, .escaped read) => some (tokens, .quoted (c :: read))

/-- The tokens of a text, if it consists of tokens and blanks. -/
def ofText? (s : List Char) : Option (List Token) := do
  let (tokens, state) ← s.foldlM step ([], .between)
  match state with
  | .between => return tokens.reverse
  | .word read => return (← ofWord? read.reverse) :: tokens |>.reverse
  | _ => none

end Token

end NamedSql.Json
