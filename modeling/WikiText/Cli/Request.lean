/-!
# Requests

What the command line asks for. Options stand in any order before, between and after the input file;
those of one letter may be written together, and `--` ends them. A value follows its option in the
next argument, after an equals sign, or directly after the letter. No option may be given twice.
-/

namespace WikiText.Cli

/-- An option without a value. -/
inductive Flag where
  /-- White space around the text stays. -/
  | keepSpace
  /-- Tags stay that no pass knows. -/
  | keepTags
  /-- The input is a formula. -/
  | formula
  /-- Only the markers of emphasis are removed. -/
  | emphasis
  /-- Each line is cleaned by itself. -/
  | lines
  /-- Diagnostics are printed without colours. -/
  | colourless
  /-- Diagnostics make the run fail. -/
  | strict
  /-- Nothing is printed about the run. -/
  | quiet
  deriving DecidableEq, Repr

/-- An option with a value. -/
inductive Setting where
  /-- The file that the result is written to. -/
  | output
  /-- The file with the namespaces of the wiki. -/
  | namespaces
  deriving DecidableEq, Repr

/-- What an option is for. -/
inductive Opt where
  /-- To set a flag. -/
  | flag (flag : Flag)
  /-- To give a value. -/
  | setting (setting : Setting)
  /-- To show how the program is used. -/
  | help
  /-- To show its version. -/
  | version
  deriving DecidableEq, Repr

/-- The options by their long names. -/
def longOptions : List (String × Opt) := [
  ("no-strip", .flag .keepSpace), ("no-html-strip", .flag .keepTags), ("math", .flag .formula),
  ("emphasis", .flag .emphasis), ("lines", .flag .lines), ("no-color", .flag .colourless),
  ("strict", .flag .strict), ("quiet", .flag .quiet), ("output", .setting .output),
  ("namespaces", .setting .namespaces), ("help", .help), ("version", .version)]

/-- The options by their letters. -/
def shortOptions : List (Char × Opt) := [
  ('q', .flag .quiet), ('o', .setting .output), ('h', .help), ('V', .version)]

/-- What is wrong with a command line. -/
inductive Misuse where
  /-- An option that there is not. -/
  | unknownOption (name : String)
  /-- A value for an option that takes none. -/
  | unexpectedValue (name : String)
  /-- No value for an option that needs one. -/
  | missingValue
  /-- An option given again. -/
  | repeated
  /-- An argument after the input file. -/
  | surplus (argument : String)
  /-- Options that exclude each other. -/
  | conflict
  deriving DecidableEq, Repr

/-- What is said about a command line that is wrong. -/
def Misuse.message : Misuse → String
  | unknownOption name => "unknown option: " ++ name
  | unexpectedValue name => "option takes no value: " ++ name
  | missingValue => "a value is missing"
  | repeated => "an option is given twice"
  | surplus argument => "unexpected argument: " ++ argument
  | conflict => "--math and --emphasis exclude each other"

/-- What a run is to do. -/
structure Request where
  /-- The flags that are set. -/
  flags : List Flag
  /-- The values that are given. -/
  settings : List (Setting × String)
  /-- The input file. -/
  input : Option String
  deriving DecidableEq, Repr

/-- What a command line asks for. -/
inductive Command where
  /-- To convert a text. -/
  | run (request : Request)
  /-- To show how the program is used. -/
  | help
  /-- To show its version. -/
  | version
  deriving DecidableEq, Repr

namespace Request

/-- A request for nothing in particular. -/
def empty : Request := ⟨[], [], none⟩

/-- Whether a flag is set. -/
def has (request : Request) (flag : Flag) : Bool :=
  request.flags.contains flag

/-- The value of a setting, if it is given. -/
def value? (request : Request) (setting : Setting) : Option String :=
  request.settings.lookup setting

/-- The request with one more flag. -/
def addFlag (request : Request) (flag : Flag) : Except Misuse Request :=
  if request.has flag then .error .repeated
  else .ok { request with flags := flag :: request.flags }

/-- The request with one more value. -/
def addValue (request : Request) (setting : Setting) (value : String) : Except Misuse Request :=
  if (request.value? setting).isSome then .error .repeated
  else .ok { request with settings := (setting, value) :: request.settings }

/-- The request with an input file. -/
def addInput (request : Request) (argument : String) : Except Misuse Request :=
  if request.input.isSome then .error (.surplus argument)
  else .ok { request with input := some argument }

/-- Where the reading of one argument leaves off. -/
inductive Progress where
  /-- The argument is complete. -/
  | next (request : Request)
  /-- The next argument is the value of a setting. -/
  | awaiting (request : Request) (setting : Setting)
  /-- The next arguments are no options. -/
  | operands (request : Request)
  /-- The command is known without the next arguments. -/
  | done (command : Command)

/-- Reads an argument after two hyphens. -/
def readLong (request : Request) (body : List Char) : Except Misuse Progress :=
  let name := String.ofList (body.takeWhile (· ≠ '='))
  let attached := match body.dropWhile (· ≠ '=') with
    | [] => none
    | _ :: value => some (String.ofList value)
  match longOptions.lookup name, attached with
  | none, _ => .error (.unknownOption ("--" ++ name))
  | some (.setting setting), some value => (request.addValue setting value).map .next
  | some (.setting setting), none => .ok (.awaiting request setting)
  | some _, some _ => .error (.unexpectedValue ("--" ++ name))
  | some (.flag flag), none => (request.addFlag flag).map .next
  | some .help, none => .ok (.done .help)
  | some .version, none => .ok (.done .version)

/-- Reads the letters of an argument after one hyphen. What follows a letter that takes a value is the
value, after an equals sign or not. -/
def readShort (request : Request) : List Char → Except Misuse Progress
  | [] => .ok (.next request)
  | letter :: rest =>
    match shortOptions.lookup letter with
    | none => .error (.unknownOption (String.ofList ['-', letter]))
    | some (.flag flag) => do readShort (← request.addFlag flag) rest
    | some .help => .ok (.done .help)
    | some .version => .ok (.done .version)
    | some (.setting setting) =>
      match rest with
      | [] => .ok (.awaiting request setting)
      | '=' :: value => (request.addValue setting (String.ofList value)).map .next
      | value => (request.addValue setting (String.ofList value)).map .next

/-- Reads one argument. A lone hyphen is an operand. -/
def readArgument (request : Request) (argument : String) : Except Misuse Progress :=
  match argument.toList with
  | ['-', '-'] => .ok (.operands request)
  | '-' :: '-' :: body => request.readLong body
  | '-' :: letter :: rest => request.readShort (letter :: rest)
  | _ => (request.addInput argument).map .next

/-- Whether an argument cannot be a value, because it looks like an option. -/
def looksLikeOption (argument : String) : Bool :=
  match argument.toList with
  | '-' :: _ :: _ => true
  | _ => false

/-- The command of a request that is complete. -/
def finish (request : Request) : Except Misuse Command :=
  if request.has .formula && request.has .emphasis then .error .conflict else .ok (.run request)

/-- Reads the arguments after all options. -/
def readOperands (request : Request) : List String → Except Misuse Command
  | [] => request.finish
  | argument :: rest => do readOperands (← request.addInput argument) rest

/-- Reads the arguments of a command line. -/
def readFrom (request : Request) : List String → Except Misuse Command
  | [] => request.finish
  | argument :: rest => do
    match ← request.readArgument argument with
    | .next request => readFrom request rest
    | .operands request => readOperands request rest
    | .done command => .ok command
    | .awaiting request setting =>
      match rest with
      | [] => .error .missingValue
      | value :: rest =>
        -- an option in the place of a value means that the value is missing
        if looksLikeOption value then .error .missingValue
        else readFrom (← request.addValue setting value) rest

end Request

/-- The command that a command line gives. -/
def Command.ofArguments (arguments : List String) : Except Misuse Command :=
  Request.empty.readFrom arguments

end WikiText.Cli
