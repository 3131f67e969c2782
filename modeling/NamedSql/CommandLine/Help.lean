import NamedSql.About
import NamedSql.CommandLine.Options
/-!
What the program says about its command line: how to use it, and what was wrong.
-/
namespace NamedSql.CommandLine

/-- What an option sets. -/
def Key.explanation : Key → String
  | .host => "Server host address"
  | .port => "Server port"
  | .debug => "Enable debug mode (verbose logging)"
  | .config => "Path to config file"
  | .backend => "Database backend (sqlite or postgres)"
  | .url => "Database connection URL"

/-- A line about an option. -/
def Key.helpLine (key : Key) : String :=
  let letter := match key.letter? with
    | some c => "-" ++ String.singleton c ++ ", "
    | none => "    "
  let value := if key.takesValue then " <" ++ key.name.map Char.toUpper ++ ">" else ""
  "  " ++ letter ++ "--" ++ key.name ++ value ++ "\n          " ++ key.explanation ++ " [env: " ++
    key.environmentName ++ "]\n"

/-- How the program is used. -/
def helpText : String :=
  "SQL operations over HTTP\n\nUsage: " ++ About.command ++ " [OPTIONS] [COMMAND]\n\n" ++
    "Commands:\n  start  Start the server (default command)\n" ++
    "  check  Validate configuration and list operations without serving\n" ++
    "  help   Print this message\n\nOptions:\n" ++
    String.join (Key.all.map Key.helpLine) ++
    "  -h, --help\n          Print help\n  -V, --version\n          Print version\n"

/-- The version of the program. -/
def versionText : String := About.command ++ " " ++ About.version ++ "\n"

/-- What was wrong with a command line. -/
def Misuse.message : Misuse → String
  | unknownCommand => "error: unrecognized subcommand"
  | unknownArgument => "error: unexpected argument"
  | badValue => "error: invalid value for an option"
  | noValue => "error: a value is required for an option"
  | repeated => "error: an option cannot be used multiple times"
  | surplusValue => "error: unexpected value for a flag"

end NamedSql.CommandLine
