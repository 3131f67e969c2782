import NamedSql.CommandLine.Options
import NamedSql.CommandLine.Word
/-!
Reading command lines. A command line may have options, then a command, then options again; an
option after the command counts before the same option in front of it, and either before the
environment. An option's value is the rest of its word or the word after it; a value in a word of
its own is looked at only when the next option begins, or the command line ends.
-/
namespace NamedSql.CommandLine

/-- What the program is told to do. -/
inductive Command where
  /-- Serves requests. -/
  | start
  /-- Tests the configuration and the connection to the database. -/
  | check
deriving Repr, DecidableEq

/-- What a command line asks for. -/
inductive Outcome where
  | run (command : Option Command) (options : Options)
  | help
  | version
  | misused (misuse : Misuse)
deriving Repr, DecidableEq

/-- Why reading stops before the end of a command line. -/
inductive Stop where
  | help
  | version
  | misused (misuse : Misuse)
deriving Repr, DecidableEq

/-- What a flag or an option means. -/
inductive Meaning where
  | setting (key : Key)
  | help
  | version
deriving Repr, DecidableEq

/-- The options on one side of the command: those read, and the last one as long as its value is
not yet looked at. -/
structure Level where
  given : Given := {}
  pending : Option (Key × Option String) := none

namespace Level

/-- Sets an option that is not yet set. -/
def add (l : Level) (key : Key) (s : String) : Except Stop Level :=
  match l.given.add key s with
  | .ok given => .ok { l with given }
  | .error misuse => .error (.misused misuse)

/-- Looks at the value of the last option. -/
def settle (l : Level) : Except Stop Level :=
  match l.pending with
  | none => .ok l
  | some (_, none) => .error (.misused .noValue)
  | some (key, some s) => add { l with pending := none } key s

/-- Reads an option, with a value if its word has one. -/
def option (l : Level) (meaning : Meaning) (value : Option String) : Except Stop Level := do
  match meaning, value with
  | .setting key, value =>
    if key.takesValue then
      let l ← l.settle
      match value with
      | some s => l.add key s
      | none => return { l with pending := some (key, none) }
    else if value.isSome then .error (.misused .surplusValue)
    else (← l.settle).add key "true"
  | .help, none => let _ ← l.settle; .error .help
  | .version, none => let _ ← l.settle; .error .version
  | _, some _ => .error (.misused .surplusValue)

end Level

/-- The meaning of an option's name. The version is asked for only in front of the command. -/
def meaningOfName? (top : Bool) (name : String) : Option Meaning :=
  if name = "help" then some .help
  else if name = "version" then if top then some .version else none
  else (Key.all.find? (·.name = name)).map .setting

/-- The meaning of an option's letter. -/
def meaningOfLetter? (top : Bool) (letter : Char) : Option Meaning :=
  if letter = 'h' then some .help
  else if letter = 'V' then if top then some .version else none
  else (Key.all.find? (·.letter? = some letter)).map .setting

/-- The value that follows a letter in its word. -/
def attached : List Char → Option String
  | [] => none
  | '=' :: value => some (String.ofList value)
  | value => some (String.ofList value)

/-- The commands by name. -/
def commands : List (String × Command) := [("start", .start), ("check", .check)]

/-- The command that only explains the others. -/
def helpCommand : String := "help"

/-- What is answered if help is asked for about the command that the words name. -/
def explain : List String → Stop
  | [] => .help
  | [word] =>
    if word = helpCommand ∨ (commands.lookup word).isSome then .help else .misused .unknownCommand
  | _ => .misused .unknownCommand

/-- Reads the options on one side of the command: in front of it up to the command, which is
answered with the words after it, or behind it up to the end. -/
def readLevel (top : Bool) : Level → List String →
    Except Stop (Level × Option (Command × List String))
  | l, [] => .ok (l, none)
  | l, word :: rest =>
    match Word.ofText word with
    | .escape => if rest.isEmpty then .ok (l, none) else .error (.misused .unknownArgument)
    | .long name value =>
      match meaningOfName? top name with
      | none => .error (.misused .unknownArgument)
      | some meaning =>
        match l.option meaning value with
        | .ok l => readLevel top l rest
        | .error stop => .error stop
    | .short letter tail =>
      match meaningOfLetter? top letter with
      | none => .error (.misused .unknownArgument)
      | some (.setting key) =>
        match l.option (.setting key) (attached tail) with
        | .ok l => readLevel top l rest
        | .error stop => .error stop
      | some meaning =>
        match l.option meaning none with
        | .ok l => readLevel top l rest
        | .error stop => .error stop
    | .plain s =>
      match l.pending with
      | some (key, none) => readLevel top { l with pending := some (key, some s) } rest
      | _ =>
        if !top then .error (.misused .unknownArgument)
        else if s = helpCommand then .error (explain rest)
        else match commands.lookup s with
          | some command => .ok (l, some (command, rest))
          | none => .error (.misused .unknownCommand)

/-- The options of one side and, where they are not set, of the environment. -/
def Level.complete (l : Level) (valueOf? : String → Option String) :
    Except Stop (Given × Given) := do
  let l ← l.settle
  match l.given.addVariables valueOf? with
  | .ok all => return (l.given, all)
  | .error misuse => .error (.misused misuse)

/-- Reads a command line up to where it stops. -/
def read (valueOf? : String → Option String) (words : List String) :
    Except Stop (Option Command × Options) := do
  let (front, command) ← readLevel true {} words
  match command with
  | none =>
    let (_, all) ← front.complete valueOf?
    return (none, all.options)
  | some (command, rest) =>
    let (back, _) ← readLevel false {} rest
    let (given, _) ← back.complete valueOf?
    let (_, all) ← front.complete valueOf?
    return (some command, (given.orElse all).options)

/-- What a command line asks for, in an environment that is given by its variables. -/
def parse (valueOf? : String → Option String) (words : List String) : Outcome :=
  match read valueOf? words with
  | .ok (command, options) => .run command options
  | .error .help => .help
  | .error .version => .version
  | .error (.misused misuse) => .misused misuse

end NamedSql.CommandLine
