import WikiText.Clean
import WikiText.Proofs.Link.Outline
import WikiText.Proofs.Text.Pattern

/-!
# The calls nested in a call of the cleaner

One call of the cleaner can be run over answers to its nested calls instead of the calls themselves:
then it only records which calls it would make (`recorded`, `nestedCalls`). Making the calls performs
the recorded deeds one by one, as long as the calls give the answers (`performs_cleanWith`). So two
ways to make nested calls that agree on the recorded ones cannot be told apart (`cleanWith_congr`).
-/

namespace WikiText

/-- A call of the cleaner. -/
structure Call where
  /-- What the caller wants to keep. -/
  options : Options
  /-- The text to be cleaned. -/
  text : Text
  deriving DecidableEq, Repr

/-- What is done in one call of the cleaner besides computing on texts. -/
inductive Deed where
  /-- An event is noted. -/
  | noted (event : Event)
  /-- A nested call is made. -/
  | called (call : Call)
  deriving DecidableEq, Repr

/-- The nested call of a deed, if it is one. -/
def Deed.call? : Deed → Option Call
  | noted _ => none
  | called call => some call

/-- The results of the calls of a cleaner. -/
def answers {ε : Type} (nested : Options → Text → Traced ε Text) (options : Options) (text : Text) :
    Text :=
  (nested options text).value

/-- A nested call that is answered and recorded. -/
def record (answer : Options → Text → Text) (options : Options) (text : Text) : Traced Deed Text :=
  ⟨answer options text, [.called ⟨options, text⟩]⟩

/-- One call of the cleaner in which nested calls are answered and recorded. -/
def recorded (namespaces : Namespaces) (answer : Options → Text → Text) (call : Call) :
    Traced Deed Text :=
  cleanWith .noted namespaces (record answer) call.options call.text

/-- The calls nested in a call, in order, given the answers to them. -/
def nestedCalls (namespaces : Namespaces) (answer : Options → Text → Text) (call : Call) :
    List Call :=
  (recorded namespaces answer call).trace.filterMap Deed.call?

/-- The nested calls are those that are noted in a recorded call. -/
theorem mem_nestedCalls {namespaces : Namespaces} {answer : Options → Text → Text}
    {call inner : Call} :
    inner ∈ nestedCalls namespaces answer call ↔
      Deed.called inner ∈ (recorded namespaces answer call).trace := by
  rw [nestedCalls, List.mem_filterMap]
  constructor
  · rintro ⟨deed, hdeed, hcall⟩
    cases deed with
    | noted event => cases hcall
    | called call =>
      cases hcall
      exact hdeed
  · exact fun h => ⟨_, h, rfl⟩

/-! ## Performing what is recorded -/

section

variable {ε α β : Type} (note : Event → ε) (nested : Options → Text → Traced ε Text)
  (answer : Options → Text → Text)

/-- The events that are noted when a deed is done. -/
def Deed.perform : Deed → List ε
  | noted event => [note event]
  | called call => (nested call.options call.text).trace

/-- The calls among some deeds give the answers to them. -/
def Answered (deeds : List Deed) : Prop :=
  ∀ call, Deed.called call ∈ deeds →
    (nested call.options call.text).value = answer call.options call.text

/-- A computation performs the deeds of a recorded one, as long as the calls give the answers. -/
def Performs (x : Traced Deed α) (y : Traced ε α) : Prop :=
  Answered nested answer x.trace →
    y.value = x.value ∧ y.trace = x.trace.flatMap (Deed.perform note nested)

variable {note nested answer}

theorem Performs.pure (a : α) : Performs note nested answer (Pure.pure a) (Pure.pure a) :=
  fun _ => ⟨rfl, rfl⟩

/-- A noted event is performed as itself. -/
theorem performs_note (event : Event) :
    Performs note nested answer (Traced.note (.noted event)) (Traced.note (note event)) :=
  fun _ => ⟨rfl, rfl⟩

/-- What follows is performed on the value that was recorded. -/
theorem Performs.bind {x : Traced Deed α} {y : Traced ε α} {f : α → Traced Deed β}
    {g : α → Traced ε β} (h : Performs note nested answer x y)
    (hnext : ∀ a, Performs note nested answer (f a) (g a)) :
    Performs note nested answer (x >>= f) (y >>= g) := by
  intro hanswered
  rw [Traced.trace_bind] at hanswered
  obtain ⟨hvalue, htrace⟩ := h fun call hcall => hanswered call (List.mem_append_left _ hcall)
  obtain ⟨hvalue', htrace'⟩ :=
    hnext x.value fun call hcall => hanswered call (List.mem_append_right _ hcall)
  rw [Traced.value_bind, Traced.trace_bind, Traced.value_bind, Traced.trace_bind, hvalue, hvalue',
    htrace, htrace', List.flatMap_append]
  exact ⟨rfl, rfl⟩

/-- A recorded call is performed as the call. -/
theorem performs_record (options : Options) (text : Text) :
    Performs note nested answer (record answer options text) (nested options text) := by
  intro hanswered
  refine ⟨hanswered ⟨options, text⟩ (List.mem_singleton_self _), ?_⟩
  exact (List.flatMap_singleton _ _).symm

/-- Events that are noted through a map are performed as they are. -/
theorem performs_mapTrace {ζ : Type} (x : Traced ζ α) (event : ζ → Event) :
    Performs note nested answer (x.mapTrace fun e => .noted (event e))
      (x.mapTrace fun e => note (event e)) := by
  intro _
  refine ⟨rfl, ?_⟩
  show x.trace.map _ = (x.trace.map _).flatMap _
  rw [List.flatMap_map]
  exact List.map_eq_flatMap

/-- What is performed for each item is performed for a list of them. -/
theorem performs_traverse {f : α → Traced Deed β} {g : α → Traced ε β}
    (h : ∀ a, Performs note nested answer (f a) (g a)) (items : List α) :
    Performs note nested answer (Traced.traverse f items) (Traced.traverse g items) := by
  induction items with
  | nil => exact .pure []
  | cons a rest ih => exact (h a).bind fun _ => ih.bind fun _ => .pure _

/-- What is performed for each construct is performed for a pass that replaces them. -/
theorem performs_replaceTraced {pattern : Pattern α} {f : α → Traced Deed Text}
    {g : α → Traced ε Text} (h : ∀ a, Performs note nested answer (f a) (g a)) (text : Text) :
    Performs note nested answer (pattern.replaceTraced f text) (pattern.replaceTraced g text) := by
  refine (performs_traverse (fun piece => ?_) _).bind fun _ => .pure _
  cases piece with
  | plain c => exact .pure [c]
  | found value => exact h value

/-! ## Passes of the cleaner -/

/-- Scripts, formulas and code are rendered with the calls that are recorded for them. -/
theorem performs_renderElements (text : Text) :
    Performs note nested answer (renderElements .noted (record answer) text)
      (renderElements note nested text) := by
  have hscript (convert : Text → Text) (content : Text) :
      Performs note nested answer
        (do let inner ← record answer .plain content; return convert inner)
        (do let inner ← nested .plain content; return convert inner) :=
    (performs_record .plain content).bind fun _ => .pure _
  refine (performs_replaceTraced (hscript _) _).bind fun _ => ?_
  refine (performs_replaceTraced (hscript _) _).bind fun _ => ?_
  refine (performs_replaceTraced (hscript _) _).bind fun _ => ?_
  refine (performs_replaceTraced (fun formula => ?_) _).bind fun _ => .pure _
  exact performs_mapTrace (Formula.render formula) .diagnostic

/-- What becomes of a link is decided with the call that is recorded for its label. -/
theorem performs_classify (namespaces : Namespaces) (options : Options) (content : Text) :
    Performs note nested answer (Link.classify namespaces (record answer options) content)
      (Link.classify namespaces (nested options) content) := by
  unfold Link.classify
  cases Link.read namespaces content with
  | category => exact .pure Link.Action.drop
  | hidden => exact .pure (Link.Action.replace [])
  | shown label => exact (performs_record options label).bind fun _ => .pure _
  | pictured description => exact (performs_record options description).bind fun _ => .pure _
  | unknown => exact .pure Link.Action.keep

section

variable {f : Text → Traced Deed Link.Action} {g : Text → Traced ε Link.Action}
  (h : ∀ content, Performs note nested answer (f content) (g content))

include h

/-- An outline is resolved with the calls that are recorded for its links. -/
theorem performs_resolve (outline : Link.Outline) (before : Text) :
    Performs note nested answer (outline.resolve f before) (outline.resolve g before) := by
  induction outline generalizing before with
  | done => exact .pure before
  | char c rest ih => exact ih (before ++ [c])
  | link content rest ihcontent ihrest =>
    exact (ihcontent []).bind fun inner => (h inner).bind fun action => ihrest _
  | unclosed content ih => exact (ih []).bind fun _ => .pure _

/-- One pass over links makes the calls that are recorded for it. -/
theorem performs_resolveOnce (text : Text) :
    Performs note nested answer (Link.resolveOnce f text) (Link.resolveOnce g text) := by
  -- how links nest does not depend on what becomes of them, so both passes resolve one outline
  obtain ⟨outline, left, houtline⟩ := Link.Outlined.exists_outlined none text
  rw [houtline.resolveOnce_eq, houtline.resolveOnce_eq]
  exact performs_resolve h outline []

/-- The passes over links make the calls that are recorded for them, in order. -/
theorem performs_resolvePasses (pass left : ℕ) (text : Text) :
    Performs note nested answer
      (Link.resolvePasses f (fun number => .noted (.linkPass number)) pass left text)
      (Link.resolvePasses g (fun number => note (.linkPass number)) pass left text) := by
  induction left generalizing pass text with
  | zero => exact .pure text
  | succ left ih =>
    refine (performs_resolveOnce h text).bind fun next => ?_
    split
    · exact .pure text
    · split
      · exact (performs_note (.linkPass (pass + 1))).bind fun _ => ih (pass + 1) next
      · exact ih (pass + 1) next

end

/-- Links are resolved with the calls that are recorded for them. -/
theorem performs_resolveLinks (namespaces : Namespaces) (options : Options) (text : Text) :
    Performs note nested answer (resolveLinks .noted namespaces (record answer) options text)
      (resolveLinks note namespaces nested options text) := by
  unfold resolveLinks
  split
  · exact (performs_note _).bind fun _ =>
      performs_resolvePasses (performs_classify namespaces _) _ _ text
  · exact .pure text

/-- A call performs the deeds that are recorded of it. -/
theorem performs_cleanWith (namespaces : Namespaces) (call : Call) :
    Performs note nested answer (recorded namespaces answer call)
      (cleanWith note namespaces nested call.options call.text) :=
  (performs_renderElements _).bind fun _ =>
    (performs_resolveLinks namespaces call.options _).bind fun _ => .pure _

end

/-! ## Nested calls that agree -/

section

variable {ε : Type} (note : Event → ε) {namespaces : Namespaces}
  {nested nested' : Options → Text → Traced ε Text} {answer : Options → Text → Text}

/-- A call gives the value that is recorded over its answers, and notes what its deeds note. -/
theorem cleanWith_of_answered {call : Call}
    (h : Answered nested answer (recorded namespaces answer call).trace) :
    cleanWith note namespaces nested call.options call.text
      = ⟨(recorded namespaces answer call).value,
        (recorded namespaces answer call).trace.flatMap (Deed.perform note nested)⟩ := by
  have hperforms : Performs note nested answer (recorded namespaces answer call)
      (cleanWith note namespaces nested call.options call.text) := performs_cleanWith namespaces call
  exact Traced.ext (hperforms h).1 (hperforms h).2

/-- The answers that calls give answer any deeds. -/
theorem answered_answers (nested : Options → Text → Traced ε Text) (deeds : List Deed) :
    Answered nested (answers nested) deeds :=
  fun _ _ => rfl

/-- Two ways to make nested calls agree where a call makes them. -/
def AgreeOn (calls : List Call) (nested nested' : Options → Text → Traced ε Text) : Prop :=
  ∀ call ∈ calls, nested call.options call.text = nested' call.options call.text

/-- Nested calls that agree where a call makes them make the same of it. -/
theorem cleanWith_congr (call : Call)
    (h : AgreeOn (nestedCalls namespaces (answers nested) call) nested nested') :
    cleanWith note namespaces nested call.options call.text
      = cleanWith note namespaces nested' call.options call.text := by
  have hanswered : Answered nested' (answers nested)
      (recorded namespaces (answers nested) call).trace :=
    fun inner hinner => congrArg Traced.value (h inner (mem_nestedCalls.mpr hinner)).symm
  rw [cleanWith_of_answered note (answered_answers nested _), cleanWith_of_answered note hanswered]
  congr 1
  refine List.flatMap_congr fun deed hdeed => ?_
  cases deed with
  | noted event => rfl
  | called inner => exact congrArg Traced.trace (h inner (mem_nestedCalls.mpr hdeed))

/-- They also leave the calls that it makes as they are. -/
theorem nestedCalls_congr {call : Call}
    (h : AgreeOn (nestedCalls namespaces (answers nested) call) nested nested') :
    nestedCalls namespaces (answers nested) call = nestedCalls namespaces (answers nested') call := by
  have hanswered : Answered (record (answers nested')) (answers nested)
      (recorded namespaces (answers nested) call).trace :=
    fun inner hinner => congrArg Traced.value (h inner (mem_nestedCalls.mpr hinner)).symm
  -- over answers again, performing a deed is recording it
  have hperform : Deed.perform Deed.noted (record (answers nested')) = fun deed => [deed] := by
    funext deed
    cases deed <;> rfl
  have hrecorded : recorded namespaces (answers nested') call = _ :=
    cleanWith_of_answered Deed.noted hanswered
  rw [hperform, List.flatMap_singleton'] at hrecorded
  rw [nestedCalls, nestedCalls, hrecorded]

end

end WikiText
