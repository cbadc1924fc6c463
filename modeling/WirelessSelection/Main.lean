import WirelessSelection.CommandLine.Program

namespace WirelessSelection.CommandLine

/-- Systems report the number of an error with either sign. -/
def isNumbered (code number : UInt32) : Bool :=
  code = number || code = -number

def fileError : IO.Error → FileError
  | .noFileOrDirectory .. => .notFound
  | .inappropriateType _ code _ => if isNumbered code 21 then .isDirectory else .notDirectory
  | .invalidArgument _ code details => if isNumbered code 36 then .nameTooLong else .other details
  | e => .other (toString e)

def guarded {α : Type} (action : IO α) : IO (Except FileError α) := do
  try return .ok (← action)
  catch e => return .error (fileError e)

def machine : Host IO where
  read path := guarded do return (← IO.FS.readBinFile path).data.toList
  isPresent path := (System.mkFilePath [path]).pathExists
  write path bytes := guarded (IO.FS.writeBinFile path ⟨bytes.toArray⟩)
  print := IO.println

def usage : String :=
  "Usage: wifi-selector [--state <STATE>] <SCENARIO>"

def explain : Ending → IO Unit
  | .success => pure ()
  | .misuse => IO.eprintln usage
  | .failure f => do
    IO.eprintln ("Error: " ++ f.message)
    if let some cause := f.cause then IO.eprintln ("\nCaused by:\n    " ++ cause)

end WirelessSelection.CommandLine

open WirelessSelection CommandLine in
def main (args : List String) : IO UInt32 := do
  let ending ← run machine args
  explain ending
  return UInt32.ofNat ending.exitCode
