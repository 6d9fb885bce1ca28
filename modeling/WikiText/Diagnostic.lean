import WikiText.Text.Basic

/-!
# Diagnostics

Cleaning never fails. Where a construct could be shown only as it was written, a diagnostic says so.
A diagnostic is printed as its level and message, then its source and its suggestion, each on lines
of their own if there is one.
-/

namespace WikiText

/-- How serious a diagnostic is, the least serious first. -/
inductive Severity where
  /-- A note. -/
  | info
  /-- The output is usable, but less than it could be. -/
  | warning
  /-- A construct could not be interpreted. -/
  | error
  deriving DecidableEq, Repr

namespace Severity

/-- The word printed for a severity. -/
def label : Severity → String
  | info => "info"
  | warning => "warning"
  | error => "error"

/-- The place of a severity in the order. -/
def rank : Severity → Nat
  | info => 0
  | warning => 1
  | error => 2

/-- The terminal code that switches the colour of a severity on: blue, yellow or red. -/
def colour : Severity → String
  | info => "\x1b[34m"
  | warning => "\x1b[33m"
  | error => "\x1b[31m"

end Severity

/-- A message about a text. -/
structure Diagnostic where
  /-- How serious it is. -/
  severity : Severity
  /-- The message. -/
  message : String
  /-- The part of the text that it is about. -/
  source : Option String
  /-- What the author may write instead. -/
  suggestion : Option String
  deriving DecidableEq, Repr

namespace Diagnostic

/-- The printed form of a diagnostic. -/
def render (diagnostic : Diagnostic) : String :=
  diagnostic.severity.label ++ ": " ++ diagnostic.message
    ++ (diagnostic.source.map ("\n  |\n  | " ++ ·)).getD ""
    ++ (diagnostic.suggestion.map ("\n  = help: " ++ ·)).getD ""

/-- The printed form of a diagnostic in the colour of its severity. -/
def renderColoured (diagnostic : Diagnostic) : String :=
  diagnostic.severity.colour ++ diagnostic.render ++ "\x1b[0m"

/-- A list of diagnostics for the terminal, each ended by a newline. -/
def renderAll (coloured : Bool) (diagnostics : List Diagnostic) : String :=
  String.join <| diagnostics.map fun diagnostic =>
    (if coloured then diagnostic.renderColoured else diagnostic.render) ++ "\n"

/-- The places of diagnostics in the order of severity, equally serious ones in the order given. -/
def orderBySeverity (diagnostics : List Diagnostic) : List Nat :=
  (diagnostics.zipIdx.mergeSort fun x y => x.1.severity.rank ≤ y.1.severity.rank).map (·.2)

end Diagnostic

end WikiText
