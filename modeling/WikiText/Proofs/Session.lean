import WikiText.Proofs.Clean.Execution
import WikiText.Session

/-!
# Diagnostics of a session

Whatever a session is asked, in whatever order, every diagnostic that is supplied to it is given away
once or still pending, and in the order in which it was supplied (`conserves`). What one step supplies
is what it would report alone, on a session of its own; the step lemma (`pending_step`) says so of any
session, and the run lemma (`pending_run`) follows by induction on the steps.

Within a step, nested calls report as they run. That gives the same as the trace of the step, in
whatever state the names of the namespaces are (`executes_step`).
-/

namespace WikiText.Session

/-! ## Turns -/

/-- A step that was taken, with the session before and after it. -/
structure Turn where
  /-- The session that was asked. -/
  before : Session
  /-- What it was asked. -/
  step : Step
  /-- What it answered. -/
  answer : Answer
  /-- The session after that. -/
  after : Session

/-- The turn of a session that is asked for a step. -/
def turn (session : Session) (step : Step) : Turn :=
  ⟨session, step, (session.step step).1, (session.step step).2⟩

/-- The turns of a run. -/
def turns (session : Session) : List Step → List Turn
  | [] => []
  | step :: rest => session.turn step :: (session.step step).2.turns rest

/-- Whether a step gives the pending diagnostics away. -/
def Step.drains : Step → Bool
  | take | format _ => true
  | _ => false

/-- The diagnostics that are given away in a turn. -/
def Turn.drained (turn : Turn) : List Diagnostic :=
  if turn.step.drains then turn.before.pending else []

/-- The answer to a step on a session of its own. -/
def Step.alone (namespaces : Namespaces) (step : Step) : Answer :=
  ((new namespaces).step step).1

/-- The diagnostics that a step supplies on a session of its own. -/
def Step.supplied (namespaces : Namespaces) (step : Step) : List Diagnostic :=
  ((new namespaces).step step).2.pending

variable {session : Session} {steps : List Step} {namespaces : Namespaces}

/-- The answers of a run are those of its turns, and the turns are those of its steps. -/
theorem run_eq_turns (session : Session) (steps : List Step) :
    (session.run steps).1 = (session.turns steps).map Turn.answer ∧
      (session.turns steps).map Turn.step = steps := by
  induction steps generalizing session with
  | nil => exact ⟨rfl, rfl⟩
  | cons step rest ih =>
    obtain ⟨hanswers, hsteps⟩ := ih (session.step step).2
    exact ⟨congrArg _ hanswers, congrArg _ hsteps⟩

/-! ## Conservation -/

/-- No step changes the namespaces. -/
theorem namespaces_step (session : Session) (step : Step) :
    (session.step step).2.namespaces = session.namespaces := by
  cases step <;> rfl

/-- What is given away in a step and what is pending after it is what was pending before it and what
the step supplies alone. -/
theorem pending_step (session : Session) (step : Step) :
    (session.turn step).drained ++ (session.step step).2.pending
      = session.pending ++ step.supplied session.namespaces := by
  cases step with
  | take => rfl
  | format coloured => rfl
  | isEmpty => exact (List.append_nil _).symm
  | arguments keepSpace arguments => exact (List.append_nil _).symm
  | namespaces => exact (List.append_nil _).symm
  | _ => rfl

/-- The same of a run. -/
theorem pending_run (session : Session) (steps : List Step) :
    (session.turns steps).flatMap Turn.drained ++ (session.run steps).2.pending
      = session.pending ++ steps.flatMap (Step.supplied session.namespaces) := by
  induction steps generalizing session with
  | nil => exact (List.append_nil _).symm
  | cons step rest ih =>
    calc (session.turns (step :: rest)).flatMap Turn.drained ++ (session.run (step :: rest)).2.pending
      _ = (session.turn step).drained ++ (((session.step step).2.turns rest).flatMap Turn.drained
            ++ ((session.step step).2.run rest).2.pending) := List.append_assoc _ _ _
      _ = ((session.turn step).drained ++ (session.step step).2.pending)
            ++ rest.flatMap (Step.supplied session.namespaces) := by
          rw [ih, namespaces_step, List.append_assoc]
      _ = session.pending ++ (step :: rest).flatMap (Step.supplied session.namespaces) := by
          rw [pending_step, List.append_assoc, List.flatMap_cons]

/-! ## Answers -/

/-- An answer with another number of diagnostics pending. -/
def Answer.recount (count : ℕ) : Answer → Answer
  | .text given _ => .text given count
  | .pending _ => .pending count
  | answer => answer

/-- The answer of a turn is what its step is answered alone, but for what it says of the pending
diagnostics; and the diagnostics that a turn gives away are those that it shows. -/
def Turn.Faithful (turn : Turn) : Prop :=
  turn.answer = match turn.step with
    | .take => .taken turn.drained true
    | .format coloured => .formatted (Diagnostic.renderAll coloured turn.drained) 0
    | .isEmpty => .empty turn.before.pending.isEmpty
    | step => (step.alone turn.before.namespaces).recount turn.after.pending.length

/-- Every turn of a session is faithful. -/
theorem faithful_turn (session : Session) (step : Step) : (session.turn step).Faithful := by
  cases step <;> rfl

/-- Diagnostics are printed one after the other. -/
theorem renderAll_append (coloured : Bool) (first second : List Diagnostic) :
    Diagnostic.renderAll coloured (first ++ second)
      = Diagnostic.renderAll coloured first ++ Diagnostic.renderAll coloured second := by
  rw [Diagnostic.renderAll, List.map_append, String.join_append]
  rfl

/-- **Each diagnostic that is given away in its printed form is printed once, and in its place**: behind the
diagnostics that were pending before it, and before those that were pending after it. -/
theorem Turn.Faithful.answer_format {turn : Turn} (h : turn.Faithful) {coloured : Bool}
    (hstep : turn.step = .format coloured) {before after : List Diagnostic} {diagnostic : Diagnostic}
    (hdrained : turn.drained = before ++ diagnostic :: after) :
    turn.answer = .formatted (Diagnostic.renderAll coloured before
      ++ ((if coloured then diagnostic.renderColoured else diagnostic.render) ++ "\n")
      ++ Diagnostic.renderAll coloured after) 0 := by
  have hanswer : turn.answer = .formatted (Diagnostic.renderAll coloured turn.drained) 0 := by
    rw [Turn.Faithful, hstep] at h
    exact h
  have hone : Diagnostic.renderAll coloured [diagnostic]
      = (if coloured then diagnostic.renderColoured else diagnostic.render) ++ "\n" := by
    rw [Diagnostic.renderAll, List.map_singleton, String.join_cons, String.join_nil, String.append_empty]
  rw [hanswer, hdrained, List.append_cons, renderAll_append, renderAll_append, hone]

/-! ## Steps as they happen -/

/-- What calls share: whether the names of the namespaces are prepared, and the diagnostics. -/
structure Memory where
  /-- Whether names are prepared. -/
  prepared : Bool
  /-- The diagnostics pending, first one first. -/
  pending : List Diagnostic

/-- The memory after an event. -/
def Memory.hear (memory : Memory) : Event → Memory
  | .diagnostic diagnostic => { memory with pending := memory.pending ++ [diagnostic] }
  | .namesNeeded _ _ => { memory with prepared := true }
  | .linkPass _ => memory

/-- The diagnostics among events are put behind those that are pending. -/
theorem Memory.pending_foldl_hear (memory : Memory) (events : List Event) :
    (events.foldl hear memory).pending = memory.pending ++ Event.diagnostics events := by
  induction events generalizing memory with
  | nil => exact (List.append_nil _).symm
  | cons event events ih =>
    rw [List.foldl_cons, ih]
    cases event with
    | diagnostic diagnostic => exact List.append_assoc _ _ _
    | namesNeeded files categories => rfl
    | linkPass number => rfl

/-- What a step does to the memory of a session. The arguments of templates are cleaned too, but what
is noted of them goes to the log. -/
def Step.deeds : Step → List Deed
  | clean options text => [.called ⟨options, text⟩]
  | lines options text => text.lines.map fun line => .called ⟨options, line⟩
  | formula text => (Formula.render text).trace.map fun diagnostic => .noted (.diagnostic diagnostic)
  | report diagnostic => [.noted (.diagnostic diagnostic)]
  | _ => []

/-- The text that a step gives, if it gives one, over answers to its calls. -/
def Step.text? (answer : Options → Text → Text) : Step → Option Text
  | clean options text => some (answer options text)
  | lines options text =>
    some (['\n'].intercalate ((text.lines.map (answer options)).filter (!·.isEmpty)))
  | formula text => some (Formula.render text).value
  | _ => none

/-- The text in an answer, if it has one. -/
def Answer.text? : Answer → Option Text
  | .text given _ => some given
  | _ => none

/-- The diagnostics of what a step does are those that it supplies. -/
theorem diagnostics_deeds (namespaces : Namespaces) (step : Step) :
    Event.diagnostics (step.deeds.flatMap (Deed.perform id (WikiText.clean namespaces)))
      = step.supplied namespaces := by
  cases step with
  | clean options text => exact congrArg _ (List.flatMap_singleton _ _)
  | lines options text =>
    have htrace : (cleanLines namespaces options text).trace
        = text.lines.flatMap fun line => (WikiText.clean namespaces options line).trace := by
      rw [cleanLines, Traced.trace_bind, Traced.trace_traverse]
      exact List.append_nil _
    show _ = Event.diagnostics (cleanLines namespaces options text).trace
    rw [htrace, Step.deeds, List.flatMap_map]
    rfl
  | formula text =>
    show _ = (Formula.render text).trace
    rw [Step.deeds, List.flatMap_map]
    show Event.diagnostics ((Formula.render text).trace.flatMap fun d => [.diagnostic d]) = _
    rw [← List.map_eq_flatMap, Event.diagnostics, List.filterMap_map]
    exact List.filterMap_some
  | _ => rfl

/-- The text that a step gives over the answers of the cleaner is that of the session. -/
theorem text?_step {answer : Options → Text → Text} {step : Step}
    (h : Answered (WikiText.clean session.namespaces) answer step.deeds) :
    step.text? answer = (session.step step).1.text? := by
  cases step with
  | clean options text =>
    exact congrArg some (h ⟨options, text⟩ (List.mem_singleton_self _)).symm
  | lines options text =>
    have hlines : text.lines.map (answer options)
        = text.lines.map fun line => (WikiText.clean session.namespaces options line).value := by
      refine List.map_congr_left fun line hline => ?_
      exact (h ⟨options, line⟩ (List.mem_map_of_mem hline)).symm
    show _ = some (cleanLines session.namespaces options text).value
    rw [Step.text?, hlines, cleanLines, Traced.value_bind, Traced.value_traverse]
    rfl
  | _ => rfl

/-- **A step as it happens does what the session says**: its calls can be run, and however they run,
whether names are prepared or not, they give the text of the answer and leave the diagnostics of the
session after the step. -/
theorem executes_step (session : Session) {step : Step} (hstep : step.drains = false)
    (prepared : Bool) :
    (∃ answer memory, Executes Memory.hear session.namespaces answer step.deeds
      ⟨prepared, session.pending⟩ memory) ∧
    ∀ answer memory, Executes Memory.hear session.namespaces answer step.deeds
      ⟨prepared, session.pending⟩ memory →
        step.text? answer = (session.step step).1.text? ∧
          memory.pending = (session.step step).2.pending := by
  constructor
  · exact ⟨_, _, executes_iff.mpr ⟨answered_answers _ _, rfl⟩⟩
  · intro answer memory hexecutes
    obtain ⟨hanswered, rfl⟩ := executes_iff.mp hexecutes
    have hpending := pending_step session step
    rw [Turn.drained, turn, if_neg (by simp [hstep]), List.nil_append] at hpending
    refine ⟨text?_step hanswered, ?_⟩
    rw [Memory.pending_foldl_hear, diagnostics_deeds, hpending]

/-! ## Runs -/

/-- What is known of a turn of a session with some namespaces. -/
structure Turn.Sound (namespaces : Namespaces) (turn : Turn) : Prop where
  /-- The namespaces are those of the session. -/
  names : turn.before.namespaces = namespaces
  /-- The answer is that of the step alone. -/
  faithful : turn.Faithful
  /-- The calls of the step can be run. -/
  runs : turn.step.drains = false → ∀ prepared, ∃ answer memory,
    Executes Memory.hear namespaces answer turn.step.deeds ⟨prepared, turn.before.pending⟩ memory
  /-- However they run, the answer and the session after the turn are what they give and leave. -/
  executed : turn.step.drains = false → ∀ prepared answer memory,
    Executes Memory.hear namespaces answer turn.step.deeds ⟨prepared, turn.before.pending⟩ memory →
      turn.step.text? answer = turn.answer.text? ∧ memory.pending = turn.after.pending

/-- Every turn of a session is sound. -/
theorem sound_of_mem_turns (session : Session) (steps : List Step) :
    ∀ turn ∈ session.turns steps, turn.Sound session.namespaces := by
  induction steps generalizing session with
  | nil => exact fun turn hturn => (List.not_mem_nil hturn).elim
  | cons step rest ih =>
    intro turn hturn
    rcases List.mem_cons.mp hturn with rfl | hturn
    · exact ⟨rfl, faithful_turn session step,
        fun hstep prepared => (executes_step session hstep prepared).1,
        fun hstep prepared => (executes_step session hstep prepared).2⟩
    · rw [← namespaces_step session step]
      exact ih _ turn hturn

/-- **No diagnostic of a session is lost, duplicated or reordered.** What is given away in the turns
of a session, followed by what is still pending, is what its steps supply alone, in their order; and
the answer in each turn is that of its step alone. -/
theorem conserves (namespaces : Namespaces) (steps : List Step) :
    ((new namespaces).run steps).1 = ((new namespaces).turns steps).map Turn.answer ∧
    ((new namespaces).turns steps).map Turn.step = steps ∧
    ((new namespaces).turns steps).flatMap Turn.drained ++ ((new namespaces).run steps).2.pending
      = steps.flatMap (Step.supplied namespaces) ∧
    ∀ turn ∈ (new namespaces).turns steps, turn.Sound namespaces := by
  obtain ⟨hanswers, hsteps⟩ := run_eq_turns (new namespaces) steps
  exact ⟨hanswers, hsteps, pending_run (new namespaces) steps, sound_of_mem_turns _ steps⟩

end WikiText.Session
