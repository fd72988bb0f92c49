import ApiOutline.CommandLine.Run

/-!
The program: runs the command line on the files and the input of the process.
-/

set_option autoImplicit false

namespace ApiOutline.CommandLine

def fileFaultOf : IO.Error → FileFault
  | .noFileOrDirectory .. | .noSuchThing .. => .notFound
  | .inappropriateType _ 20 _ => .notDirectory
  | .inappropriateType _ 21 _ => .isDirectory
  | fault => .other (toString fault)

/-- What an action gives, or why it fails. -/
def attempt {α : Type} (action : IO α) : IO (Except FileFault α) := do
  match ← action.toBaseIO with
  | .ok value => return .ok value
  | .error fault => return .error (fileFaultOf fault)

def processSystem : System IO where
  readInput := attempt do (← IO.getStdin).readBinToEnd
  readFile path := attempt (IO.FS.readBinFile path)
  writeFile path text := attempt (IO.FS.writeFile path text)
  print text := attempt do
    let output ← IO.getStdout
    output.putStr text
    output.flush
  report fault := IO.eprintln fault.line

end ApiOutline.CommandLine

open ApiOutline.CommandLine in
/-- Runs the command line and gives its exit code. -/
def main (arguments : List String) : IO UInt32 := do
  return UInt32.ofNat (← (Request.ofArguments arguments).run processSystem)
