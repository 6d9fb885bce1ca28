import WikiText.Proofs.Clean.Termination

/-!
# Calls on a shared state

The trace of a call is what it noted, put together afterwards. A call that runs tells a state that all
calls share of each event when it happens, and nested calls run in the middle of the call that they are
nested in. `Executes` is that order of things, over any state; it changes the state as the events of the
trace do, one after the other (`executes_iff`).
-/

namespace WikiText

variable {σ : Type} {hear : σ → Event → σ} {namespaces : Namespaces}
  {answer : Options → Text → Text} {deeds : List Deed} {before after : σ}

/-- Deeds are done one after the other. The state hears of an event when it is noted; a nested call
runs in its place, on the state that the deeds before it left, and gives the answer to it. -/
inductive Executes (hear : σ → Event → σ) (namespaces : Namespaces) :
    (Options → Text → Text) → List Deed → σ → σ → Prop where
  | nil {answer : Options → Text → Text} (state : σ) :
    Executes hear namespaces answer [] state state
  | noted {answer : Options → Text → Text} {event : Event} {deeds : List Deed} {before after : σ}
    (rest : Executes hear namespaces answer deeds (hear before event) after) :
    Executes hear namespaces answer (.noted event :: deeds) before after
  | called {answer inner : Options → Text → Text} {call : Call} {deeds : List Deed}
    {before middle after : σ}
    (run : Executes hear namespaces inner (recorded namespaces inner call).trace before middle)
    (given : answer call.options call.text = (recorded namespaces inner call).value)
    (rest : Executes hear namespaces answer deeds middle after) :
    Executes hear namespaces answer (.called call :: deeds) before after

/-- What the cleaner makes of a call, if the calls nested in it are answered as the cleaner does. -/
theorem clean_of_answered {call : Call}
    (h : Answered (clean namespaces) answer (recorded namespaces answer call).trace) :
    clean namespaces call.options call.text = ⟨(recorded namespaces answer call).value,
      (recorded namespaces answer call).trace.flatMap (Deed.perform id (clean namespaces))⟩ := by
  rw [clean_eq_cleanWith]
  exact cleanWith_of_answered id h

/-- An event that is noted needs no answer. -/
theorem Answered.cons_noted {ε : Type} {nested : Options → Text → Traced ε Text} {event : Event}
    (h : Answered nested answer deeds) : Answered nested answer (.noted event :: deeds) := by
  intro call hcall
  rcases List.mem_cons.mp hcall with hcall | hcall
  · cases hcall
  · exact h call hcall

/-- A call that is answered by its value may come before others. -/
theorem Answered.cons_called {ε : Type} {nested : Options → Text → Traced ε Text} {call : Call}
    (hcall : (nested call.options call.text).value = answer call.options call.text)
    (h : Answered nested answer deeds) : Answered nested answer (.called call :: deeds) := by
  intro other hother
  rcases List.mem_cons.mp hother with hother | hother
  · cases hother
    exact hcall
  · exact h other hother

/-- However the nested calls came to their answers, they are those of the cleaner, and the state has
heard the events of the traces. -/
theorem Executes.answered_and_state (h : Executes hear namespaces answer deeds before after) :
    Answered (clean namespaces) answer deeds ∧
      after = (deeds.flatMap (Deed.perform id (clean namespaces))).foldl hear before := by
  induction h with
  | nil state => exact ⟨fun call hcall => (List.not_mem_nil hcall).elim, rfl⟩
  | noted rest ih => exact ⟨ih.1.cons_noted, ih.2⟩
  | @called answer inner call deeds before middle after run given rest ihrun ihrest =>
    have hclean := clean_of_answered ihrun.1
    refine ⟨ihrest.1.cons_called ?_, ?_⟩
    · rw [hclean, given]
    · rw [List.flatMap_cons, List.foldl_append, ihrest.2, Deed.perform, hclean, ihrun.2]

/-- Deeds can be done if the calls among them can be run. -/
theorem executes_of_runs (hanswered : Answered (clean namespaces) answer deeds)
    (hruns : ∀ call, .called call ∈ deeds → ∀ before : σ,
      Executes hear namespaces (answers (clean namespaces))
        (recorded namespaces (answers (clean namespaces)) call).trace before
        ((clean namespaces call.options call.text).trace.foldl hear before))
    (before : σ) :
    Executes hear namespaces answer deeds before
      ((deeds.flatMap (Deed.perform id (clean namespaces))).foldl hear before) := by
  induction deeds generalizing before with
  | nil => exact .nil before
  | cons deed deeds ih =>
    have hrest := ih (fun call hcall => hanswered call (List.mem_cons_of_mem _ hcall))
      fun call hcall => hruns call (List.mem_cons_of_mem _ hcall)
    rw [List.flatMap_cons, List.foldl_append]
    cases deed with
    | noted event => exact .noted (hrest _)
    | called call =>
      refine .called (hruns call List.mem_cons_self before) ?_ (hrest _)
      rw [← hanswered call List.mem_cons_self, clean_of_answered (answered_answers _ _)]

/-- Every call can be run. The induction is on the openers of its text. -/
theorem executes_clean (call : Call) (before : σ) :
    Executes hear namespaces (answers (clean namespaces))
      (recorded namespaces (answers (clean namespaces)) call).trace before
      ((clean namespaces call.options call.text).trace.foldl hear before) := by
  induction hopeners : openers call.text using Nat.strong_induction_on generalizing call before with
  | _ count ih =>
    subst hopeners
    rw [clean_of_answered (answered_answers _ _)]
    refine executes_of_runs (answered_answers _ _) (fun inner hinner before => ?_) before
    have hlt := openers_lt_of_mem_nestedCalls namespaces (openers_clean_le namespaces)
      (mem_nestedCalls.mpr hinner)
    exact ih _ hlt inner before rfl

/-- **Calls on a shared state do what their traces say**: deeds can be done exactly with the answers
of the cleaner, and leave the state that has heard the events of their traces in order. -/
theorem executes_iff :
    Executes hear namespaces answer deeds before after ↔
      Answered (clean namespaces) answer deeds ∧
        after = (deeds.flatMap (Deed.perform id (clean namespaces))).foldl hear before := by
  constructor
  · exact Executes.answered_and_state
  · rintro ⟨hanswered, rfl⟩
    exact executes_of_runs hanswered (fun call _ => executes_clean call) before

end WikiText
