/-!
The arguments of the command line. They are read from left to right: help and version are shown as
soon as they are asked for, and the first mistake ends the reading. No option may be given twice.
-/

set_option autoImplicit false

namespace ApiOutline.CommandLine

/-- What an outline is wanted of and where it goes: the document, the file for the outline if it is
not printed, whether it takes one line, and whether details are wanted besides. -/
structure Arguments where
  input : String
  output : Option String
  compact : Bool
  verbose : Bool

inductive Request where
  | outline (arguments : Arguments)
  | help
  | version
  | misuse

/-- The arguments read so far. -/
structure Given where
  input : Option String
  output : Option String
  compact : Bool
  verbose : Bool

namespace Given

def nothing : Given := ⟨none, none, false, false⟩

/-- What an argument leads to: the next one is read as an argument or as the name of the output, or
the request is clear. -/
inductive Step where
  | next (given : Given)
  | awaitOutput
  | stop (request : Request)

def addInput (given : Given) (value : String) : Step :=
  if given.input.isSome || value.isEmpty then .stop .misuse
  else .next { given with input := some value }

def addOutput (given : Given) (value : String) : Step :=
  if given.output.isSome || value.isEmpty then .stop .misuse
  else .next { given with output := some value }

def addCompact (given : Given) : Step :=
  if given.compact then .stop .misuse else .next { given with compact := true }

def addVerbose (given : Given) : Step :=
  if given.verbose then .stop .misuse else .next { given with verbose := true }

/-- Takes the letters after a dash. The name of the output may follow its letter at once. -/
def takeLetters (given : Given) : List Char → Step
  | [] => .next given
  | 'h' :: _ => .stop .help
  | 'V' :: _ => .stop .version
  | 'v' :: rest =>
    match given.addVerbose with
    | .next given => given.takeLetters rest
    | step => step
  | ['o'] => .awaitOutput
  | 'o' :: '=' :: value => given.addOutput (String.ofList value)
  | 'o' :: value => given.addOutput (String.ofList value)
  | _ => .stop .misuse

/-- Takes the word after two dashes. -/
def takeWord (given : Given) (word : List Char) : Step :=
  let name := String.ofList (word.takeWhile (· ≠ '='))
  match name, word.dropWhile (· ≠ '=') with
  | "output", [] => .awaitOutput
  | "output", _ :: value => given.addOutput (String.ofList value)
  | "compact", [] => given.addCompact
  | "verbose", [] => given.addVerbose
  | "help", [] => .stop .help
  | "version", [] => .stop .version
  | _, _ => .stop .misuse

def take (given : Given) (argument : String) : Step :=
  match argument.toList with
  | '-' :: '-' :: word => given.takeWord word
  | '-' :: c :: rest => given.takeLetters (c :: rest)
  | _ => given.addInput argument

/-- Whether an argument can be the name of the output, that is, starts with no dash or is one. -/
def isName (argument : String) : Bool :=
  match argument.toList with
  | '-' :: _ :: _ => false
  | _ => true

/-- Reads the arguments; after two dashes alone, by `onlyInputs`, none is an option. -/
def read (given : Given) (onlyInputs : Bool) : List String → Request
  | [] =>
    match given.input with
    | some input => .outline ⟨input, given.output, given.compact, given.verbose⟩
    | none => .misuse
  | argument :: rest =>
    if !onlyInputs && argument = "--" then given.read true rest
    else
      match if onlyInputs then given.addInput argument else given.take argument with
      | .next given => given.read onlyInputs rest
      | .stop request => request
      | .awaitOutput =>
        match rest with
        | [] => .misuse
        | value :: rest =>
          match if isName value then given.addOutput value else .stop .misuse with
          | .next given => given.read onlyInputs rest
          | .stop request => request
          | .awaitOutput => .misuse

end Given

def Request.ofArguments (arguments : List String) : Request := Given.nothing.read false arguments

end ApiOutline.CommandLine
