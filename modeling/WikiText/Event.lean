import WikiText.Diagnostic

/-!
# Events

What a run of the cleaner notes besides its result, and the messages of the log that are made of it.
The names of the namespaces are prepared when links are first resolved and kept from then on, so of
several notes that they are needed only the first becomes a message.
-/

namespace WikiText

/-- Something that happened while a text was cleaned. -/
inductive Event where
  /-- Something could not be interpreted. -/
  | diagnostic (diagnostic : Diagnostic)
  /-- Links are about to be resolved with so many names for files and for categories. -/
  | namesNeeded (files categories : Nat)
  /-- A pass over links after the first one changed the text. -/
  | linkPass (number : Nat)
  deriving DecidableEq, Repr

namespace Event

/-- The diagnostic of an event, if it is one. -/
def diagnostic? : Event → Option Diagnostic
  | diagnostic d => some d
  | _ => none

/-- The diagnostics among events. -/
def diagnostics (events : List Event) : List Diagnostic :=
  events.filterMap diagnostic?

end Event

namespace Log

/-- The level of a message. -/
inductive Level where
  /-- For those who look for faults in the program. -/
  | debug
  /-- A note. -/
  | info
  /-- A warning. -/
  | warn
  /-- An error. -/
  | error
  deriving DecidableEq, Repr

/-- The word for a level. -/
def Level.label : Level → String
  | debug => "DEBUG"
  | info => "INFO"
  | warn => "WARN"
  | error => "ERROR"

/-- A message of the log. -/
structure Message where
  /-- Its level. -/
  level : Level
  /-- Its text. -/
  text : String
  deriving DecidableEq, Repr

/-- The level at which diagnostics of a severity are logged. -/
def Level.ofSeverity : Severity → Level
  | .info => info
  | .warning => warn
  | .error => error

/-- The message of a diagnostic. -/
def ofDiagnostic (diagnostic : Diagnostic) : Message :=
  ⟨.ofSeverity diagnostic.severity, diagnostic.render⟩

/-- The message of an event. -/
def ofEvent : Event → Message
  | .diagnostic d => ofDiagnostic d
  | .namesNeeded files categories =>
    ⟨.debug, "compiling link patterns for " ++ toString files ++ " file and "
      ++ toString categories ++ " category names"⟩
  | .linkPass number => ⟨.debug, "link resolution pass " ++ toString number⟩

/-- Whether an event is about the preparation of names. -/
def isNamesNeeded : Event → Bool
  | .namesNeeded _ _ => true
  | _ => false

/-- The events that become messages: of those about the preparation of names, the first. `prepared`
says whether the names are prepared already. -/
def effective (prepared : Bool) : List Event → List Event
  | [] => []
  | event :: rest =>
    if isNamesNeeded event then
      if prepared then effective true rest else event :: effective true rest
    else event :: effective prepared rest

/-- The messages of all events of one cleaner, from its first call on. -/
def ofEvents (events : List Event) : List Message :=
  (effective false events).map ofEvent

end Log

end WikiText
