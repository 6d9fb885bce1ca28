import WikiText.Arguments

/-!
# Sessions

A session keeps the diagnostics of its steps until they are taken. Its answers say what a step gave
and how many diagnostics are pending after it.
-/

namespace WikiText

/-- A cleaner with the diagnostics that nobody has taken yet. -/
structure Session where
  /-- The namespaces of the wiki. -/
  namespaces : Namespaces
  /-- The diagnostics pending, first one first. -/
  pending : List Diagnostic
  deriving DecidableEq, Repr

namespace Session

/-- What may be asked of a session. -/
inductive Step where
  /-- To clean a text. -/
  | clean (options : Options) (text : Text)
  /-- To clean each line of a text. -/
  | lines (options : Options) (text : Text)
  /-- To render a formula. -/
  | formula (text : Text)
  /-- To add a diagnostic. -/
  | report (diagnostic : Diagnostic)
  /-- To give the pending diagnostics away. -/
  | take
  /-- To give the pending diagnostics away in their printed form. -/
  | format (coloured : Bool)
  /-- To say whether diagnostics are pending. -/
  | isEmpty
  /-- To clean the arguments of a template, the diagnostics of which go to the log. -/
  | arguments (keepSpace : Bool) (arguments : Arguments)
  /-- To name the namespaces. -/
  | namespaces

/-- What a session answers. -/
inductive Answer where
  /-- A text, and the number of diagnostics pending. -/
  | text (text : Text) (pending : Nat)
  /-- The number of diagnostics pending. -/
  | pending (count : Nat)
  /-- Diagnostics that are pending no longer, and whether none are left. -/
  | taken (diagnostics : List Diagnostic) (empty : Bool)
  /-- The printed form of diagnostics that are pending no longer, and the number of those left. -/
  | formatted (text : String) (pending : Nat)
  /-- Whether no diagnostics are pending. -/
  | empty (value : Bool)
  /-- Cleaned arguments. -/
  | arguments (arguments : Arguments)
  /-- The namespaces of the session. -/
  | namespaces (namespaces : Namespaces)

/-- A session without diagnostics. -/
def new (namespaces : Namespaces) : Session := ⟨namespaces, []⟩

/-- The session after more diagnostics. -/
def add (session : Session) (diagnostics : List Diagnostic) : Session :=
  { session with pending := session.pending ++ diagnostics }

/-- The session after its diagnostics are taken. -/
def drained (session : Session) : Session :=
  { session with pending := [] }

/-- The answer and the session after a text was computed and diagnostics were noted. -/
def deliver (session : Session) (text : Text) (diagnostics : List Diagnostic) :
    Answer × Session :=
  let session := session.add diagnostics
  (.text text session.pending.length, session)

/-- The answer to a step, and the session after it. -/
def step (session : Session) : Step → Answer × Session
  | .clean options text =>
    let result := WikiText.clean session.namespaces options text
    session.deliver result.value (Event.diagnostics result.trace)
  | .lines options text =>
    let result := cleanLines session.namespaces options text
    session.deliver result.value (Event.diagnostics result.trace)
  | .formula text =>
    let result := Formula.render text
    session.deliver result.value result.trace
  | .report diagnostic =>
    let session := session.add [diagnostic]
    (.pending session.pending.length, session)
  | .take => (.taken session.pending session.drained.pending.isEmpty, session.drained)
  | .format coloured =>
    (.formatted (Diagnostic.renderAll coloured session.pending) session.drained.pending.length,
      session.drained)
  | .isEmpty => (.empty session.pending.isEmpty, session)
  | .arguments keepSpace arguments =>
    (.arguments (arguments.clean session.namespaces keepSpace).value, session)
  | .namespaces => (.namespaces session.namespaces, session)

/-- The answers to steps one after the other, and the session after them. -/
def run (session : Session) : List Step → List Answer × Session
  | [] => ([], session)
  | step :: rest =>
    let (answer, session) := session.step step
    let (answers, session) := session.run rest
    (answer :: answers, session)

end Session

end WikiText
