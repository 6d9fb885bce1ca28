import WikiText.Cli.Host
import WikiText.Cli.Request
import WikiText.Clean
import WikiText.Namespaces.Json

/-!
# Runs

A run reads its input and the namespaces, converts the input, and delivers the result; whatever goes
wrong ends it before anything is delivered. Diagnostics are printed before it is decided whether they
make the run fail.
-/

namespace WikiText.Cli

/-- What is left of a run. -/
structure Outcome where
  /-- The code that the program ends with: 0 after success, 2 after misuse, else 1. -/
  exitCode : Nat
  /-- What is printed as the result. -/
  stdout : String
  /-- What is printed about the run. -/
  stderr : String
  deriving DecidableEq, Repr

/-- The name and the version of the program. -/
def versionText : String := "wikiclean 0.1.0\n"

/-- How the program is used, line by line. -/
def helpLines : List String := [
  "wikiclean - wiki markup to plain text",
  "",
  "Usage: wikiclean [OPTIONS] [INPUT_FILE]",
  "",
  "Arguments:",
  "  [INPUT_FILE]  Input file path (reads from stdin if not provided)",
  "",
  "Options:",
  "  -o, --output <OUTPUT>    Output file path (writes to stdout if not provided)",
  "      --no-strip           Keep leading and trailing whitespace",
  "      --no-html-strip      Keep residual HTML tags",
  "      --math               Treat the input as a LaTeX formula and render it",
  "      --emphasis           Only strip bold/italic markers",
  "      --lines              Clean each line separately",
  "      --namespaces <JSON>  Namespace data JSON with localized File and Category names",
  "      --no-color           Disable colored diagnostic output",
  "      --strict             Exit with error if any diagnostics were produced",
  "  -q, --quiet              Suppress diagnostic output to stderr",
  "  -h, --help               Print help",
  "  -V, --version            Print version"]

/-- How the program is used. -/
def helpText : String :=
  String.join (helpLines.map (· ++ "\n"))

/-- Converts a text as a request says. -/
def Request.convert (request : Request) (namespaces : Namespaces) (input : Text) :
    Traced Diagnostic Text :=
  let options : Options := ⟨request.has .keepSpace, request.has .keepTags⟩
  let collect (result : Traced Event Text) : Traced Diagnostic Text :=
    ⟨result.value, Event.diagnostics result.trace⟩
  if request.has .formula then Formula.render input.trim
  else if request.has .emphasis then pure (Emphasis.stripAll input)
  else if request.has .lines then collect (cleanLines namespaces options input)
  else collect (clean namespaces options input)

/-- What is printed about the diagnostics of a conversion. -/
def Request.printed (request : Request) (diagnostics : List Diagnostic) : String :=
  if request.has .quiet then "" else Diagnostic.renderAll (!request.has .colourless) diagnostics

section

variable {m : Type → Type} [Monad m]

/-- What is left of a run that failed. -/
def Outcome.ofFailure (failure : Failure) (printed : String) : Outcome :=
  ⟨1, "", printed ++ "Error: " ++ failure.describe ++ "\n"⟩

/-- Delivers the result of a conversion: to the output file if there is one, else to the standard
output. A newline follows it in both. -/
def Request.deliver (request : Request) (host : Host m) (result : Traced Diagnostic Text) :
    m Outcome :=
  let printed := request.printed result.trace
  if request.has .strict && !result.trace.isEmpty then
    pure ⟨1, "", printed ++ "Error: " ++ toString result.trace.length
      ++ " diagnostic(s) in strict mode\n"⟩
  else match request.value? .output with
    | none => pure ⟨0, String.ofList result.value ++ "\n", printed⟩
    | some path => do
      match ← host.store path (result.value ++ ['\n']) with
      | .error fault => return .ofFailure (.io fault.message) printed
      | .ok () =>
        let notice := if request.has .quiet then "" else "✓ Output written to: " ++ path ++ "\n"
        return ⟨0, "", printed ++ notice⟩

/-- Reads the input of a request. -/
def Request.readInput (request : Request) (host : Host m) : m (Except Failure Text) := do
  let text ← match request.input with
    | some path => host.readFile path
    | none => host.readInput
  return text.mapError fun fault => .io fault.message

/-- Reads the namespaces of a request. -/
def Request.readNamespaces (request : Request) (host : Host m) : m (Except Failure Namespaces) :=
  match request.value? .namespaces with
  | none => pure (.ok .canonical)
  | some path => do
    match ← host.readFile path with
    | .error fault => return .error (.io fault.message)
    | .ok text => return Namespaces.ofJson text

/-- Does what a request says. -/
def Request.run (request : Request) (host : Host m) : m Outcome := do
  match ← request.readInput host with
  | .error failure => return .ofFailure failure ""
  | .ok input =>
    match ← request.readNamespaces host with
    | .error failure => return .ofFailure failure ""
    | .ok namespaces => request.deliver host (request.convert namespaces input)

/-- Does what a command line says. -/
def run (host : Host m) (arguments : List String) : m Outcome :=
  match Command.ofArguments arguments with
  | .error misuse => pure ⟨2, "", "Error: " ++ misuse.message ++ "\n"⟩
  | .ok .help => pure ⟨0, helpText, ""⟩
  | .ok .version => pure ⟨0, versionText, ""⟩
  | .ok (.run request) => request.run host

end

end WikiText.Cli
