import ApiOutline.CommandLine.Arguments
import ApiOutline.CommandLine.Directory
import ApiOutline.Extraction

/-!
A run of the command line. The document is read, its outline is made, and then written to one place,
a file or the output; whatever fails before leaves nothing written. What fails is reported, a line
for each fault.
-/

set_option autoImplicit false

namespace ApiOutline.CommandLine

inductive RunFault where
  | cannotRead (source : String) (fault : FileFault)
  | badDocument (fault : OpenApi.DocumentFault)
  | cannotWrite (path : String) (fault : FileFault)
  | misuse

def RunFault.message : RunFault → String
  | .cannotRead source fault => s!"Failed to read {source}: {fault.message}"
  | .badDocument fault => fault.message
  | .cannotWrite path fault => s!"Failed to write {path}: {fault.message}"
  | .misuse => "wrong arguments, --help shows the right ones"

/-- How a fault is reported. A message may take several lines. -/
def RunFault.line (fault : RunFault) : String := "error: " ++ fault.message

/-- What a run needs of its surroundings. -/
structure System (m : Type → Type) where
  readInput : m (Except FileFault ByteArray)
  readFile : String → m (Except FileFault ByteArray)
  writeFile : String → String → m (Except FileFault Unit)
  print : String → m (Except FileFault Unit)
  report : RunFault → m Unit

/-! ### Runs -/

/-- The name that stands for the input instead of a file. -/
def inputMark : String := "-"

/-- How messages call the source of a document. -/
def sourceName (path : String) : String := if path = inputMark then "stdin" else path

def decodeText (source : String) (content : Except FileFault ByteArray) :
    Except RunFault String := do
  let content ← content.mapError (.cannotRead source)
  match String.fromUTF8? content with
  | some text => .ok text
  | none => .error (.cannotRead source .notText)

variable {m : Type → Type} [Monad m]

/-- Reads the input or a file. -/
def System.readSource (system : System m) (path : String) : m (Except FileFault ByteArray) :=
  if path = inputMark then system.readInput else system.readFile path

/-- Writes a text to a file, or prints it if there is none. -/
def System.deliver (system : System m) (path : Option String) (text : String) :
    m (Except FileFault Unit) :=
  match path with
  | none => system.print text
  | some path => system.writeFile path text

/-- Reads the document, makes its outline and delivers it, up to the first of these that fails. -/
def Arguments.translate (arguments : Arguments) (system : System m) :
    m (Except (List RunFault) Unit) := do
  match decodeText (sourceName arguments.input) (← system.readSource arguments.input) with
  | .error fault => return .error [fault]
  | .ok text =>
    match extract text with
    | .failure faults => return .error (faults.map .badDocument)
    | .success outline =>
      let delivered ← system.deliver arguments.output (outline.render arguments.compact ++ "\n")
      return delivered.mapError fun fault =>
        [.cannotWrite (arguments.output.getD "stdout") fault]

/-- Runs a translation, reports why it failed if it did, and gives the exit code. -/
def Arguments.run (arguments : Arguments) (system : System m) : m Nat := do
  match ← arguments.translate system with
  | .ok () => return 0
  | .error faults =>
    faults.forM system.report
    return 1

def versionText : String := "oasir 0.1.0\n"

def helpLines : List String := [
  "Translate OpenAPI 3.x documents into IR",
  "",
  "Usage: oasir [OPTIONS] <INPUT>",
  "",
  "Arguments:",
  "  <INPUT>  OpenAPI document (JSON or YAML), or \x60-\x60 for stdin",
  "",
  "Options:",
  "  -o, --output <FILE>  Write the IR here instead of stdout",
  "      --compact        Emit single-line JSON",
  "  -v, --verbose        Log translation details to stderr",
  "  -h, --help           Print help",
  "  -V, --version        Print version"]

def helpText : String := String.join (helpLines.map (· ++ "\n"))

/-- Prints a text that is asked for. It does not matter if that fails. -/
def System.printHelp (system : System m) (text : String) : m Nat := do
  let _ ← system.print text
  return 0

def Request.run (request : Request) (system : System m) : m Nat :=
  match request with
  | .outline arguments => arguments.run system
  | .help => system.printHelp helpText
  | .version => system.printHelp versionText
  | .misuse => do
    system.report .misuse
    return 2

/-! ### Sessions -/

/-- Where a run stands: the files there are, what has been printed, and the faults that have been
reported. -/
structure Surroundings (σ : Type) where
  files : σ
  output : String
  faults : List RunFault

/-- What is done with files, an output and reports. -/
def Session (σ α : Type) : Type := StateM (Surroundings σ) α

instance (σ : Type) : Monad (Session σ) := inferInstanceAs (Monad (StateM (Surroundings σ)))

/-- How a session ends: its exit code, what it has printed, and the faults it has reported. -/
structure Report where
  exitCode : Nat
  output : String
  faults : List RunFault

/-- What has been said about the faults, one after the other. -/
def Report.errorLines (report : Report) : List String := report.faults.map (·.line)

namespace Session

variable {σ α : Type}

/-- What a session gives, and where it leaves off. -/
def apply (session : Session σ α) (start : Surroundings σ) : α × Surroundings σ :=
  StateT.run session start

/-- A session that starts with nothing printed or reported, and the files after it. -/
def run (session : Session σ Nat) (files : σ) : Report × σ :=
  let (exitCode, final) := session.apply ⟨files, "", []⟩
  (⟨exitCode, final.output, final.faults⟩, final.files)

end Session

/-- The system of the files of a file system, an input as it is read, and an output by whether a
text can be printed. A text that cannot be printed is not printed in part either. -/
def FileSystem.system {σ : Type} (files : FileSystem σ) (input : Except FileFault ByteArray)
    (printing : String → Except FileFault Unit) : System (Session σ) where
  readInput current := (input, current)
  readFile path current := (files.read current.files path, current)
  writeFile path text current :=
    match files.write current.files path text.toUTF8 with
    | .ok after => (.ok (), { current with files := after })
    | .error fault => (.error fault, current)
  print text current :=
    match printing text with
    | .ok () => (.ok (), { current with output := current.output ++ text })
    | .error fault => (.error fault, current)
  report fault current := ((), { current with faults := current.faults ++ [fault] })

/-- The system of a directory and an input that is given as a whole. -/
def Directory.system (input : ByteArray) (layout : Layout := {}) : System (Session Directory) :=
  (fileSystem layout).system (.ok input) fun _ => .ok ()

end ApiOutline.CommandLine
