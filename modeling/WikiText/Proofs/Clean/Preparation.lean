import Mathlib.Logic.Relation
import WikiText.Proofs.Clean.Execution

/-!
# Preparation of names

The names of the namespaces are prepared for links when a call needs them, and are kept by the cleaner
for all calls after that. Calls share this state while they run, and a nested call may need the names
before the call that it is nested in does. Whatever the calls are, the preparation is logged at most
once, exactly if one of them needs it, and before any message on a further pass over links
(`preparation_logged`).

What has to be shown of one call is that it notes a need for names before it notes a pass. This holds of
every stretch of its trace that holds at the beginning of it (`Heralded`), so it is a matter of putting
traces one after the other, by induction on how calls nest.
-/

namespace WikiText

/-! ## Messages -/

namespace Log

/-- Whether an event is a further pass over links. -/
def isLinkPass : Event → Bool
  | .linkPass _ => true
  | _ => false

/-- Whether a message for those who look for faults begins in this way. -/
def Message.begins (beginning : String) (message : Message) : Bool :=
  decide (message.level = .debug) && beginning.toList.isPrefixOf message.text.toList

/-- Whether a message is about the preparation of names. -/
def Message.isPreparation : Message → Bool :=
  Message.begins "compiling link patterns for "

/-- Whether a message is about a further pass over links. -/
def Message.isLinkPass : Message → Bool :=
  Message.begins "link resolution pass "

/-- No diagnostic is logged for those who look for faults. -/
theorem begins_ofDiagnostic (beginning : String) (diagnostic : Diagnostic) :
    (ofDiagnostic diagnostic).begins beginning = false := by
  have hlevel : (ofDiagnostic diagnostic).level ≠ .debug := by
    show Level.ofSeverity diagnostic.severity ≠ .debug
    cases diagnostic.severity <;> decide
  rw [Message.begins, decide_eq_false hlevel, Bool.false_and]

/-- The message about prepared names is that of the event that needs them. -/
theorem isPreparation_ofEvent (event : Event) :
    (ofEvent event).isPreparation = isNamesNeeded event := by
  cases event with
  | diagnostic d => exact begins_ofDiagnostic _ d
  | namesNeeded files categories =>
    simp [ofEvent, Message.isPreparation, Message.begins, isNamesNeeded]
  | linkPass number =>
    simp [ofEvent, Message.isPreparation, Message.begins, isNamesNeeded, List.isPrefixOf]

/-- The message about a pass over links is that of the event that notes it. -/
theorem isLinkPass_ofEvent (event : Event) : (ofEvent event).isLinkPass = isLinkPass event := by
  cases event with
  | diagnostic d => exact begins_ofDiagnostic _ d
  | namesNeeded files categories =>
    simp [ofEvent, Message.isLinkPass, Message.begins, isLinkPass, List.isPrefixOf]
  | linkPass number =>
    simp [ofEvent, Message.isLinkPass, Message.begins, isLinkPass]

/-! ## What becomes a message -/

/-- The first need for names becomes a message, and no other. -/
theorem countP_effective (prepared : Bool) (events : List Event) :
    (effective prepared events).countP isNamesNeeded
      = if prepared = false ∧ events.any isNamesNeeded = true then 1 else 0 := by
  induction events generalizing prepared with
  | nil => simp [effective]
  | cons event rest ih =>
    rw [effective]
    by_cases hevent : isNamesNeeded event = true
    · cases prepared <;> simp [hevent, ih]
    · simp [hevent, ih]

/-- Leaving out repeated preparations leaves one in if there was one. -/
theorem any_effective (events : List Event) :
    (effective false events).any isNamesNeeded = events.any isNamesNeeded := by
  rw [Bool.eq_iff_iff, List.any_eq_true, ← List.countP_pos_iff, countP_effective]
  cases hany : events.any isNamesNeeded <;> simp

/-! ## What comes before what -/

/-- Each further pass over links is noted after a need for names; `needed` says whether one was noted
before these events. -/
def Heralded (needed : Bool) : List Event → Prop
  | [] => True
  | event :: rest =>
    (isLinkPass event = true → needed = true) ∧ Heralded (needed || isNamesNeeded event) rest

/-- An event that is no pass may come first, and what it needs counts as seen behind it. -/
theorem heralded_cons {needed : Bool} {event : Event} {rest : List Event}
    (hevent : isLinkPass event = false) (hrest : Heralded (needed || isNamesNeeded event) rest) :
    Heralded needed (event :: rest) := by
  refine ⟨?_, hrest⟩
  rw [hevent]
  exact fun hpass => (Bool.false_ne_true hpass).elim

/-- Events are heralded if the first ones are, and the second ones behind what the first have seen. -/
theorem heralded_append {needed : Bool} {first second : List Event} :
    Heralded needed (first ++ second) ↔
      Heralded needed first ∧ Heralded (needed || first.any isNamesNeeded) second := by
  induction first generalizing needed with
  | nil => simp [Heralded]
  | cons event rest ih => simp [Heralded, ih, and_assoc, Bool.or_assoc]

/-- After a need for names there may be any events. -/
theorem heralded_true (events : List Event) : Heralded true events := by
  induction events with
  | nil => trivial
  | cons event rest ih => exact ⟨fun _ => rfl, ih⟩

/-- Behind the need for names, everything is heralded. -/
theorem heralded_namesNeeded (needed : Bool) (files categories : ℕ) (rest : List Event) :
    Heralded needed (.namesNeeded files categories :: rest) := by
  apply heralded_cons rfl
  show Heralded (needed || true) rest
  rw [Bool.or_true]
  exact heralded_true rest

/-- What is heralded when nothing has been seen is heralded anyway. -/
theorem Heralded.of_false {events : List Event} (h : Heralded false events) (needed : Bool) :
    Heralded needed events := by
  cases needed with
  | false => exact h
  | true => exact heralded_true events

/-- Events that are heralded by themselves are so one after the other. -/
theorem Heralded.flatMap {α : Type} {items : List α} {events : α → List Event}
    (h : ∀ item ∈ items, Heralded false (events item)) : Heralded false (items.flatMap events) := by
  induction items with
  | nil => trivial
  | cons item rest ih =>
    rw [List.flatMap_cons, heralded_append]
    refine ⟨h item List.mem_cons_self, Heralded.of_false ?_ _⟩
    exact ih fun other hother => h other (List.mem_cons_of_mem item hother)

/-- The first need for names is kept, so what becomes a message comes in this order too. -/
theorem Heralded.effective {prepared : Bool} {events : List Event} (h : Heralded prepared events) :
    Heralded prepared (effective prepared events) := by
  induction events generalizing prepared with
  | nil => trivial
  | cons event rest ih =>
    obtain ⟨hevent, hrest⟩ := h
    rw [Log.effective]
    split
    · next hneeded =>
      rw [hneeded, Bool.or_true] at hrest
      split
      · next hprepared =>
        rw [hprepared]
        exact ih hrest
      · refine ⟨hevent, ?_⟩
        rw [hneeded, Bool.or_true]
        exact ih hrest
    · next hneeded =>
      rw [eq_false_of_ne_true hneeded, Bool.or_false] at hrest
      refine ⟨hevent, ?_⟩
      rw [eq_false_of_ne_true hneeded, Bool.or_false]
      exact ih hrest

/-- Before each pass over links names were needed. -/
theorem Heralded.exists_before {events before after : List Event} {pass : Event}
    (h : Heralded false events) (hevents : events = before ++ pass :: after)
    (hpass : isLinkPass pass = true) : before.any isNamesNeeded = true := by
  rw [hevents, heralded_append] at h
  exact h.2.1 hpass

end Log

/-! ## The journal of a cleaner -/

/-- What a cleaner keeps between its calls, and what it has logged. -/
structure Journal where
  /-- Whether the names are prepared. -/
  prepared : Bool
  /-- The messages so far, first one first. -/
  messages : List Log.Message

namespace Journal

/-- The journal before the first call. -/
def new : Journal := ⟨false, []⟩

/-- The journal after an event. Names that are needed are prepared unless they are already, and every
other event is logged as it is. -/
def hear (journal : Journal) (event : Event) : Journal :=
  if Log.isNamesNeeded event && journal.prepared then journal
  else ⟨journal.prepared || Log.isNamesNeeded event, journal.messages ++ [Log.ofEvent event]⟩

/-- A journal that has heard events holds the messages of those that take effect. -/
theorem foldl_hear (journal : Journal) (events : List Event) :
    events.foldl hear journal
      = ⟨journal.prepared || events.any Log.isNamesNeeded,
        journal.messages ++ (Log.effective journal.prepared events).map Log.ofEvent⟩ := by
  induction events generalizing journal with
  | nil => simp [Log.effective]
  | cons event rest ih =>
    rw [List.foldl_cons, ih, hear, Log.effective]
    cases hevent : Log.isNamesNeeded event <;> cases hprepared : journal.prepared <;>
      simp [hevent, hprepared]

end Journal

/-! ## One call -/

section

variable {namespaces : Namespaces} {answer : Options → Text → Text} {call : Call}

/-- The text of a call when its links are about to be resolved. -/
def textAtLinks (namespaces : Namespaces) (call : Call) : Text :=
  let text := (renderElements id (clean namespaces) (removeLayout call.text)).value
  let text := if call.options.keepTags then Html.noinclude.remove text else Html.stripTags text
  Link.removeMargin (Ellipsis.unbracket text)

/-- A call renders elements, then resolves links. -/
theorem trace_clean (namespaces : Namespaces) (call : Call) :
    (clean namespaces call.options call.text).trace
      = (renderElements id (clean namespaces) (removeLayout call.text)).trace
        ++ (resolveLinks id namespaces (clean namespaces) call.options
          (textAtLinks namespaces call)).trace := by
  rw [clean_eq_cleanWith, cleanWith, Traced.trace_bind, Traced.trace_bind, Traced.trace_pure,
    List.append_nil]
  rfl

/-- While elements are rendered, calls are made and diagnostics are noted. -/
theorem mem_trace_renderElements {text : Text} {deed : Deed}
    (h : deed ∈ (renderElements .noted (record answer) text).trace) :
    (∃ inner, deed = .called inner) ∨ ∃ diagnostic, deed = .noted (.diagnostic diagnostic) := by
  have hscript {name : String} {convert : Text → Text} {text : Text}
      (h : deed ∈ ((Html.element name).replaceTraced
        (fun content => do let inner ← record answer .plain content; return convert inner)
        text).trace) : ∃ inner, deed = .called inner := by
    obtain ⟨_, content, _, -, -, hmem⟩ := exists_of_mem_trace_replaceTraced h
    rw [Traced.trace_bind, Traced.trace_pure, List.append_nil] at hmem
    exact ⟨_, List.mem_singleton.mp hmem⟩
  rw [renderElements] at h
  simp only [Traced.trace_bind, Traced.trace_pure, List.append_nil, List.mem_append] at h
  rcases h with h | h | h | h
  · exact .inl (hscript h)
  · exact .inl (hscript h)
  · exact .inl (hscript h)
  · obtain ⟨_, formula, _, -, -, hmem⟩ := exists_of_mem_trace_replaceTraced h
    obtain ⟨diagnostic, -, rfl⟩ := List.mem_map.mp hmem
    exact .inr ⟨diagnostic, rfl⟩

/-- What is noted while elements are rendered, over the calls that are made then. -/
theorem trace_renderElements (namespaces : Namespaces) (text : Text) :
    (renderElements id (clean namespaces) text).trace
      = (renderElements .noted (record (answers (clean namespaces))) text).trace.flatMap
        (Deed.perform id (clean namespaces)) :=
  (performs_renderElements text (answered_answers _ _)).2

/-- Links are resolved where a pair of brackets is left, and then names are needed first. -/
theorem trace_resolveLinks (namespaces : Namespaces) (options : Options) (text : Text) :
    Text.occursIn ['[', '['] text = false ∧
        (resolveLinks id namespaces (clean namespaces) options text).trace = [] ∨
      Text.occursIn ['[', '['] text = true ∧ ∃ files categories rest,
        (resolveLinks id namespaces (clean namespaces) options text).trace
          = .namesNeeded files categories :: rest := by
  rw [resolveLinks]
  split
  · next hoccurs => exact .inr ⟨hoccurs, _, _, _, rfl⟩
  · next hoccurs => exact .inl ⟨eq_false_of_ne_true hoccurs, rfl⟩

/-- A call that is made while elements are rendered is nested in the call. -/
theorem mem_nestedCalls_of_rendering {inner : Call}
    (h : Deed.called inner
      ∈ (renderElements .noted (record answer) (removeLayout call.text)).trace) :
    inner ∈ nestedCalls namespaces answer call := by
  rw [mem_nestedCalls, recorded, cleanWith, Traced.trace_bind]
  exact List.mem_append_left _ h

/-- A call notes a need for names before it notes a further pass over links. The induction is on the
openers of its text. -/
theorem heralded_clean (call : Call) :
    Log.Heralded false (clean namespaces call.options call.text).trace := by
  induction hopeners : openers call.text using Nat.strong_induction_on generalizing call with
  | _ count ih =>
    subst hopeners
    rw [trace_clean, Log.heralded_append]
    constructor
    · rw [trace_renderElements]
      apply Log.Heralded.flatMap
      intro deed hdeed
      rcases mem_trace_renderElements hdeed with ⟨inner, rfl⟩ | ⟨diagnostic, rfl⟩
      -- a call that a script makes has fewer openers
      · have hlt := openers_lt_of_mem_nestedCalls namespaces (openers_clean_le namespaces)
          (mem_nestedCalls_of_rendering hdeed)
        exact ih _ hlt inner rfl
      · exact Log.heralded_cons rfl trivial
    · rcases trace_resolveLinks namespaces call.options (textAtLinks namespaces call) with
        ⟨-, htrace⟩ | ⟨-, files, categories, rest, htrace⟩
      · rw [htrace]
        trivial
      · rw [htrace]
        exact Log.heralded_namesNeeded _ files categories rest

/-! ## The calls of a run -/

/-- A call and the calls nested in it, however deep. -/
def Within (namespaces : Namespaces) : Call → Call → Prop :=
  Relation.ReflTransGen fun call inner =>
    inner ∈ nestedCalls namespaces (answers (clean namespaces)) call

/-- Names are needed in a call by itself or by a call nested in it. -/
theorem any_isNamesNeeded_clean (namespaces : Namespaces) (call : Call) :
    (clean namespaces call.options call.text).trace.any Log.isNamesNeeded = true ↔
      Text.occursIn ['[', '['] (textAtLinks namespaces call) = true ∨
        ∃ inner ∈ nestedCalls namespaces (answers (clean namespaces)) call,
          (clean namespaces inner.options inner.text).trace.any Log.isNamesNeeded = true := by
  have hclean := clean_of_answered (answered_answers (clean namespaces)
    (recorded namespaces (answers (clean namespaces)) call).trace)
  constructor
  · rw [trace_clean, List.any_append, Bool.or_eq_true]
    rintro (hrendering | hlinks)
    · right
      rw [trace_renderElements, List.any_flatMap, List.any_eq_true] at hrendering
      obtain ⟨deed, hdeed, hany⟩ := hrendering
      rcases mem_trace_renderElements hdeed with ⟨inner, rfl⟩ | ⟨diagnostic, rfl⟩
      · exact ⟨inner, mem_nestedCalls_of_rendering hdeed, hany⟩
      · cases hany
    · left
      -- either no link is looked for, and nothing is noted, or the names are needed first
      rcases trace_resolveLinks namespaces call.options (textAtLinks namespaces call) with
        ⟨-, htrace⟩ | ⟨hoccurs, -⟩
      · rw [htrace] at hlinks
        cases hlinks
      · exact hoccurs
  · rintro (hoccurs | ⟨inner, hinner, hany⟩)
    · rw [trace_clean, List.any_append, Bool.or_eq_true]
      right
      rcases trace_resolveLinks namespaces call.options (textAtLinks namespaces call) with
        ⟨hnone, -⟩ | ⟨-, files, categories, rest, htrace⟩
      · rw [hoccurs] at hnone
        cases hnone
      · rw [htrace]
        rfl
    · rw [hclean, List.any_flatMap, List.any_eq_true]
      exact ⟨.called inner, mem_nestedCalls.mp hinner, hany⟩

/-- Names are needed in a call if brackets are left when links are resolved, in the call or in one
nested in it. -/
theorem any_isNamesNeeded_iff (call : Call) :
    (clean namespaces call.options call.text).trace.any Log.isNamesNeeded = true ↔
      ∃ inner, Within namespaces call inner ∧
        Text.occursIn ['[', '['] (textAtLinks namespaces inner) = true := by
  constructor
  · induction hopeners : openers call.text using Nat.strong_induction_on generalizing call with
    | _ count ih =>
      subst hopeners
      intro hany
      rcases (any_isNamesNeeded_clean namespaces call).mp hany with hoccurs | ⟨inner, hinner, hany⟩
      · exact ⟨call, .refl, hoccurs⟩
      · have hlt := openers_lt_of_mem_nestedCalls namespaces (openers_clean_le namespaces) hinner
        obtain ⟨deepest, hwithin, hoccurs⟩ := ih _ hlt inner rfl hany
        exact ⟨deepest, .head hinner hwithin, hoccurs⟩
  · rintro ⟨deepest, hwithin, hoccurs⟩
    induction hwithin using Relation.ReflTransGen.head_induction_on with
    | refl => exact (any_isNamesNeeded_clean namespaces deepest).mpr (.inl hoccurs)
    | head hinner _ ih => exact (any_isNamesNeeded_clean namespaces _).mpr (.inr ⟨_, hinner, ih⟩)

/-- What the journal holds after calls one after the other, each of which runs on what the calls before
it left. -/
theorem messages_of_executes {calls : List Call} {journal : Journal}
    (h : Executes Journal.hear namespaces answer (calls.map .called) .new journal) :
    journal.messages
      = Log.ofEvents (calls.flatMap fun call => (clean namespaces call.options call.text).trace) := by
  rw [(executes_iff.mp h).2, List.flatMap_map, Journal.foldl_hear]
  rfl

/-- **Names are prepared once, and when they are first needed.** Calls of one cleaner can be run one
after the other. However they run, the preparation is logged at most once. It is logged exactly if a
pair of opening brackets is left in one of the calls, or of the calls nested in them, when its links are
about to be resolved; and it is logged before any message on a further pass over links. -/
theorem preparation_logged (namespaces : Namespaces) (calls : List Call) :
    (∃ answer journal,
      Executes Journal.hear namespaces answer (calls.map .called) .new journal) ∧
    ∀ answer journal, Executes Journal.hear namespaces answer (calls.map .called) .new journal →
      journal.messages.countP Log.Message.isPreparation ≤ 1 ∧
      (journal.messages.any Log.Message.isPreparation = true ↔
        ∃ call ∈ calls, ∃ inner, Within namespaces call inner ∧
          Text.occursIn ['[', '['] (textAtLinks namespaces inner) = true) ∧
      ∀ before message after, journal.messages = before ++ message :: after →
        message.isLinkPass = true → before.any Log.Message.isPreparation = true := by
  constructor
  · exact ⟨answers (clean namespaces), _, executes_iff.mpr ⟨answered_answers _ _, rfl⟩⟩
  intro answer journal hexecutes
  -- of the messages only the first need for names is logged, and that is told by the events
  have hpreparation : Log.Message.isPreparation ∘ Log.ofEvent = Log.isNamesNeeded :=
    funext Log.isPreparation_ofEvent
  rw [messages_of_executes hexecutes, Log.ofEvents]
  refine ⟨?_, ?_, ?_⟩
  · rw [List.countP_map, hpreparation, Log.countP_effective]
    split <;> decide
  · rw [List.any_map, hpreparation, Log.any_effective, List.any_flatMap, List.any_eq_true]
    simp only [any_isNamesNeeded_iff]
  · intro before message after hmessages hpass
    obtain ⟨earlier, more, hevents, rfl, hmore⟩ := List.map_eq_append_iff.mp hmessages
    obtain ⟨pass, later, rfl, rfl, rfl⟩ := List.map_eq_cons_iff.mp hmore
    rw [Log.isLinkPass_ofEvent] at hpass
    rw [List.any_map, hpreparation]
    have hheralded : Log.Heralded false
        (calls.flatMap fun call => (clean namespaces call.options call.text).trace) :=
      Log.Heralded.flatMap fun call _ => heralded_clean call
    exact hheralded.effective.exists_before hevents hpass

/-- A script with a link in it, before another link. -/
def linkInScript : Call :=
  ⟨.plain, "a<sup>[[b]]</sup>[[c]]".toList⟩

/-- The link in the script needs the names, long before the link behind it does. -/
theorem preparation_logged_in_script :
    ∃ journal, Executes Journal.hear .canonical (answers (clean .canonical)) [.called linkInScript]
        .new journal ∧
      ⟨.plain, "[[b]]".toList⟩ ∈ nestedCalls .canonical (answers (clean .canonical)) linkInScript ∧
      journal.messages.countP Log.Message.isPreparation = 1 := by
  have hnested : ⟨.plain, "[[b]]".toList⟩
      ∈ nestedCalls .canonical (answers (clean .canonical)) linkInScript := by decide +kernel
  have hbrackets : Text.occursIn ['[', '[']
      (textAtLinks .canonical ⟨.plain, "[[b]]".toList⟩) = true := by decide +kernel
  have hexecutes := executes_iff.mpr ⟨answered_answers (clean .canonical) [.called linkInScript],
    (rfl : _ = List.foldl Journal.hear .new _)⟩
  refine ⟨_, hexecutes, hnested, ?_⟩
  obtain ⟨hcount, hany, -⟩ := (preparation_logged .canonical [linkInScript]).2 _ _ hexecutes
  apply le_antisymm hcount
  apply List.countP_pos_iff.mpr
  apply List.any_eq_true.mp
  apply hany.mpr
  exact ⟨linkInScript, List.mem_singleton_self _, _, .single hnested, hbrackets⟩

end

end WikiText
