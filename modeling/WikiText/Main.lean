import WikiText.Cli.Run

/-!
# The program

Runs the command line on the files and streams of the process.
-/

namespace WikiText.Cli

/-- The number of a system error, which the process may give with a minus sign. -/
def errorNumber (code : UInt32) : UInt32 :=
  if 0x80000000 ≤ code then 0 - code else code

/-- The fault that a system error is. -/
def faultOfCode (code : UInt32) (details : String) : Fault :=
  match (errorNumber code).toNat with
  | 2 => .notFound
  | 20 => .notDirectory
  | 21 => .isDirectory
  | 36 => .nameTooLong
  | number => .other (details.capitalize ++ " (os error " ++ toString number ++ ")")

/-- The fault behind an error of the process. -/
def faultOf : IO.Error → Fault
  | .noFileOrDirectory _ code details => faultOfCode code details
  | .inappropriateType _ code details => faultOfCode code details
  | .permissionDenied _ code details => faultOfCode code details
  | .invalidArgument _ code details => faultOfCode code details
  | .resourceExhausted _ code details => faultOfCode code details
  | error => .other (toString error)

/-- An action of the process with its errors as faults. -/
def catchFaults {α : Type} (action : IO α) : IO (Except Fault α) := do
  match ← action.toBaseIO with
  | .ok value => return .ok value
  | .error error => return .error (faultOf error)

/-- The system that the process runs on. -/
def processHost : Host IO where
  readFile path := do
    return (← catchFaults (IO.FS.readBinFile path)).bind textOfBytes
  readInput := do
    return (← catchFaults do (← IO.getStdin).readBinToEnd).bind textOfBytes
  createFile path := catchFaults do discard (IO.FS.Handle.mk path .write)
  writeFile path text := catchFaults (IO.FS.writeFile path (String.ofList text))

end WikiText.Cli

/-- Runs the program and gives its exit code. -/
def main (arguments : List String) : IO UInt32 := do
  let outcome ← WikiText.Cli.run WikiText.Cli.processHost arguments
  IO.eprint outcome.stderr
  IO.print outcome.stdout
  return outcome.exitCode.toUInt32
