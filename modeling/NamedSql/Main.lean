import NamedSql.Program.Run
/-!
The program on a machine with a disk. It says what the run says and ends with its status; the
network and the databases belong to the host that the service is handed over to.
-/
namespace NamedSql.Main

/-- What is found at a path on the disk. -/
def look (path : String) : IO Files.Entry := do
  try return .file (← IO.FS.readFile path)
  catch
    | .noFileOrDirectory .. => return .missing
    | .inappropriateType _ _ details =>
      return if details.startsWith "Is a" || details.startsWith "is a" then .directory else .missing
    | _ => return .binary

/-- The variables that the program may ask for, as they are set. -/
def environment : IO Environment.Variables := do
  let mentioned ← match ← look Environment.fileName with
    | .file contents => pure (Environment.mentioned contents)
    | _ => pure []
  let names := CommandLine.Key.all.map (·.environmentName) ++ mentioned
  let pairs ← names.filterMapM fun name => do return (← IO.getEnv name).map (name, ·)
  return Record.ofList pairs

/-- The machine that the program runs on. -/
def machine : IO (Program.Machine IO) := do
  return ⟨(← IO.getEnv "HOME").getD "", look, fun _ => pure false⟩

/-- A warning as it is reported. -/
def warningLine (w : Warning) : String :=
  "WARN " ++ w.message ++
    String.join (w.details.map fun (name, value) => " " ++ name ++ "=" ++ value)

/-- Runs the program, and answers its status. -/
def run (words : List String) : IO UInt32 := do
  let result ← Program.run (← machine) (← environment) words
  for w in result.warnings do IO.eprintln (warningLine w)
  IO.print result.output
  match result.ending with
  | .failed failure => IO.eprint failure.report
  | .misused misuse => IO.eprintln misuse.message
  | _ => pure ()
  return UInt32.ofNat result.ending.status

end NamedSql.Main

/-- Runs the program with the words of its command line. -/
def main (words : List String) : IO UInt32 := NamedSql.Main.run words
