import ControlSurface.CommandLine.Run

/- The program: reads files, runs the command line and writes what it says. -/
namespace ControlSurface.CommandLine

/-- How a message speaks of a failed read. -/
def faultOf : IO.Error → ReadFault
  | .noFileOrDirectory _ _ _ => .missing
  | .inappropriateType _ _ _ => .isDirectory
  | e => .other (toString e)

/-- The bytes of a file, or why they cannot be read. -/
def readBytes (path : String) : IO (Except ReadFault ByteArray) :=
  try return .ok (← IO.FS.readBinFile path)
  catch e => return .error (faultOf e)

/-- The files that a command names, read beforehand. -/
def filesFor (command : Option Command) : IO Files := do
  let paths := match command with
    | some (.build o) => [o.config, o.file].filterMap id
    | _ => []
  let found ← paths.mapM fun path => return (path, ← readBytes path)
  let settings ← match ← IO.getEnv "HOME" with
    | some home => (·.toOption) <$> readBytes (home ++ "/.faust-td/builder.yaml")
    | none => pure none
  return ⟨fun path => (found.lookup path).getD (.error .missing), settings⟩

/-- The usage of the program. -/
def usage : String :=
  "Usage: " ++ programName ++ " build <FILE> [-c <CONFIG>] [-p] [--ungroup-voices]"
    ++ " [--keep-td-prefix] [--params-only] [--json]\n"
    ++ "       " ++ programName ++ " legalize <LABELS>...\n"

end ControlSurface.CommandLine

open ControlSurface.CommandLine in
/-- Runs the program with its arguments. -/
def main (args : List String) : IO UInt32 := do
  let command := Command.read? args
  let outcome := run (← filesFor command) args
  match command with
  | none => IO.eprint usage
  | some .help => IO.print usage
  | _ => do
    IO.print outcome.out
    IO.eprint outcome.err
  return UInt32.ofNat outcome.code
