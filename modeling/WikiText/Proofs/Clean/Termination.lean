import WikiText.Proofs.Clean.Calls
import WikiText.Proofs.Openers.Formula
import WikiText.Proofs.Openers.Links

/-!
# The cleaner terminates

Every call of the cleaner makes finitely many nested calls, each on a text with fewer openers
(`openers_lt_of_mem_nestedCalls`), so the calls form a finite tree (`clean_terminates`). That no pass
adds openers has to be known of the nested calls first, for what they give is part of the text that
later passes read (`Lowers`); it then holds of the call itself (`lowers_cleanWith`).

The bound on the depth of nested calls in the definition of the cleaner is never reached, so the
cleaner calls itself (`clean_eq_cleanWith`).
-/

namespace WikiText

/-! ## One call -/

section

variable {ε : Type} {note : Event → ε} {nested : Options → Text → Traced ε Text} {bound : ℕ}

/-- What may be noted in a call on a text with so many openers: the events of the call itself, and
those of nested calls on texts with fewer openers. -/
def Below (note : Event → ε) (nested : Options → Text → Traced ε Text) (bound : ℕ) (event : ε) :
    Prop :=
  (∃ own, event = note own) ∨
    ∃ options text, openers text < bound ∧ event ∈ (nested options text).trace

/-- A computation gives a text with no more openers, and makes calls on texts with fewer openers
only. -/
structure Lowers (note : Event → ε) (nested : Options → Text → Traced ε Text) (bound : ℕ)
    (x : Traced ε Text) : Prop where
  value : openers x.value ≤ bound
  trace : ∀ event ∈ x.trace, Below note nested bound event

theorem Lowers.pure {text : Text} (h : openers text ≤ bound) :
    Lowers note nested bound (Pure.pure text) where
  value := h
  trace _ hevent := by cases hevent

theorem Lowers.bind {x : Traced ε Text} {f : Text → Traced ε Text} (h : Lowers note nested bound x)
    (hnext : ∀ text, openers text ≤ bound → Lowers note nested bound (f text)) :
    Lowers note nested bound (x >>= f) := by
  have hafter := hnext x.value h.value
  refine ⟨hafter.value, fun event hevent => ?_⟩
  rw [Traced.trace_bind] at hevent
  rcases List.mem_append.mp hevent with hevent | hevent
  · exact h.trace event hevent
  · exact hafter.trace event hevent

/-- What is noted while constructs are replaced is noted about one of them. -/
theorem exists_of_mem_trace_replaceTraced {α : Type} {pattern : Pattern α}
    {replacement : α → Traced ε Text} {text : Text} {event : ε}
    (h : event ∈ (pattern.replaceTraced replacement text).trace) :
    ∃ tail value rest, pattern.opening :: tail <:+ text ∧
      pattern.body.run tail = some (value, rest) ∧ event ∈ (replacement value).trace := by
  rw [Pattern.replaceTraced, Traced.trace_bind, Traced.trace_traverse, Traced.trace_pure,
    List.append_nil] at h
  induction text using Pattern.pieces.induct pattern with
  | case1 =>
    rw [Pattern.pieces] at h
    cases h
  | case2 tail value rest hsome ih =>
    rw [Pattern.pieces_cons_of_some hsome, List.flatMap_cons] at h
    rcases List.mem_append.mp h with hhere | hlater
    · exact ⟨tail, value, rest, List.suffix_refl _, hsome, hhere⟩
    · obtain ⟨tail', value', rest', hsuffix, hrun, hmem⟩ := ih hlater
      have htail := (pattern.body.suffix hsome).trans (List.suffix_cons pattern.opening tail)
      exact ⟨tail', value', rest', hsuffix.trans htail, hrun, hmem⟩
  | case3 tail hnone ih =>
    rw [Pattern.pieces_cons_of_none hnone, List.flatMap_cons] at h
    obtain ⟨tail', value', rest', hsuffix, hrun, hmem⟩ := ih h
    exact ⟨tail', value', rest', hsuffix.trans (List.suffix_cons _ tail), hrun, hmem⟩
  | case4 c tail hc ih =>
    rw [Pattern.pieces_cons_of_ne hc, List.flatMap_cons] at h
    obtain ⟨tail', value', rest', hsuffix, hrun, hmem⟩ := ih h
    exact ⟨tail', value', rest', hsuffix.trans (List.suffix_cons c tail), hrun, hmem⟩

/-- Replacing elements lowers a text if each content is replaced by a text with no more openers. -/
theorem lowers_replaceTraced {name : String} {replacement : Text → Traced ε Text}
    (hvalue : ∀ content, openers (replacement content).value ≤ openers content)
    (htrace : ∀ content, openers content < bound →
      ∀ event ∈ (replacement content).trace, Below note nested bound event)
    {text : Text} (h : openers text ≤ bound) :
    Lowers note nested bound ((Html.element name).replaceTraced replacement text) where
  value := by
    rw [Pattern.value_replaceTraced]
    exact (Html.openers_replaceElement_le hvalue text).trans h
  trace event hevent := by
    obtain ⟨tail, content, rest, hsuffix, hrun, hmem⟩ := exists_of_mem_trace_replaceTraced hevent
    exact htrace content ((Html.openers_content_lt hrun hsuffix).trans_le h) event hmem

variable (hnested : ∀ options text, openers (nested options text).value ≤ openers text)

include hnested

/-- Setting a script lowers a text if the conversion adds no openers. -/
theorem lowers_script {name : String} {convert : Text → Text}
    (hconvert : ∀ text, openers (convert text) ≤ openers text) {text : Text}
    (h : openers text ≤ bound) :
    Lowers note nested bound ((Html.element name).replaceTraced
      (fun content => do let inner ← nested .plain content; return convert inner) text) := by
  refine lowers_replaceTraced (fun content => (hconvert _).trans (hnested _ content)) ?_ h
  intro content hcontent event hevent
  rw [Traced.trace_bind, Traced.trace_pure, List.append_nil] at hevent
  exact .inr ⟨.plain, content, hcontent, hevent⟩

/-- Rendering the elements of a text lowers it. -/
theorem lowers_renderElements {text : Text} (h : openers text ≤ bound) :
    Lowers note nested bound (renderElements note nested text) := by
  have hblank (name : String) {text : Text} (h : openers text ≤ bound) :
      openers ((Html.blankElement name).remove text) ≤ bound :=
    (Pattern.openers_remove_le _ text).trans h
  refine (lowers_script hnested Script.openers_toSuperscript_le (hblank "sup" h)).bind ?_
  intro text h
  refine (lowers_script hnested Script.openers_toSubscript_le (hblank "sub" h)).bind ?_
  intro text h
  refine (lowers_script hnested Script.openers_toChemical_le h).bind ?_
  intro text h
  refine Lowers.bind (lowers_replaceTraced ?_ ?_ h) ?_
  · exact Formula.openers_render_le
  · -- formulas are rendered without calls
    intro formula _ event hevent
    obtain ⟨diagnostic, -, rfl⟩ := List.mem_map.mp hevent
    exact .inl ⟨_, rfl⟩
  · intro text h
    refine .pure ((Html.openers_replaceElement_le (fun code => ?_) text).trans h)
    rw [List.cons_append, openers_cons_of_not rfl, openers_append]
    exact openers_trim_le code

/-- Resolving the links of a text lowers it. -/
theorem lowers_resolveLinks (namespaces : Namespaces) (options : Options) {text : Text}
    (h : openers text ≤ bound) :
    Lowers note nested bound (resolveLinks note namespaces nested options text) := by
  have hmodest := Link.modest_classify namespaces
    (hnested { options with keepSpace := true })
  unfold resolveLinks
  split
  · refine ⟨(Link.openers_resolvePasses_le hmodest _ _ _ text).trans h, fun event hevent => ?_⟩
    rcases List.mem_cons.mp hevent with rfl | hevent
    · exact .inl ⟨_, rfl⟩
    · rcases Link.exists_of_mem_trace_resolvePasses hmodest hevent with
        ⟨number, rfl⟩ | ⟨content, hcontent, hevent⟩
      · exact .inl ⟨_, rfl⟩
      · obtain ⟨label, hlabel, hevent⟩ := Link.exists_of_mem_trace_classify hevent
        exact .inr ⟨_, label, by omega, hevent⟩
  · exact .pure h

/-- A call lowers its text if nested calls do not add openers. -/
theorem lowers_cleanWith (namespaces : Namespaces) (options : Options) (text : Text) :
    Lowers note nested (openers text) (cleanWith note namespaces nested options text) := by
  refine (lowers_renderElements hnested (openers_removeLayout_le text)).bind fun rendered h => ?_
  have hstripped : openers (if options.keepTags then Html.noinclude.remove rendered
      else Html.stripTags rendered) ≤ openers text := by
    split
    · exact (Pattern.openers_remove_le _ _).trans h
    · exact (openers_stripTags_le _).trans h
  refine (lowers_resolveLinks hnested namespaces options
    ((openers_removeMargin_le _).trans hstripped)).bind fun resolved h => .pure ?_
  exact (Tidy.openers_tidy_le _ _).trans ((Emphasis.openers_stripAll_le _).trans
    ((Link.openers_resolveExternal_le _).trans h))

end

/-! ## Nested calls -/

section

variable (namespaces : Namespaces)

/-- **The text of a nested call has fewer openers** than the text of the call that it is nested
in. -/
theorem openers_lt_of_mem_nestedCalls {answer : Options → Text → Text}
    (hanswer : ∀ options text, openers (answer options text) ≤ openers text) {call inner : Call}
    (h : inner ∈ nestedCalls namespaces answer call) : openers inner.text < openers call.text := by
  have hlowers : Lowers Deed.noted (record answer) _ (recorded namespaces answer call) :=
    lowers_cleanWith hanswer namespaces call.options call.text
  -- over answers, what is noted in a nested call is that call
  rcases hlowers.trace _ (mem_nestedCalls.mp h) with ⟨own, hown⟩ | ⟨options, text, hlt, hmem⟩
  · cases hown
  · rw [record, List.mem_singleton] at hmem
    cases hmem
    exact hlt

/-- Cleaning up to a depth of nested calls adds no openers. -/
theorem openers_cleanUpTo_le (depth : ℕ) (options : Options) (text : Text) :
    openers (cleanUpTo namespaces depth options text).value ≤ openers text := by
  induction depth generalizing options text with
  | zero => exact Nat.le_refl _
  | succ depth ih => exact (lowers_cleanWith ih namespaces options text).value

/-- Cleaning adds no openers. -/
theorem openers_clean_le (options : Options) (text : Text) :
    openers (clean namespaces options text).value ≤ openers text :=
  openers_cleanUpTo_le namespaces _ options text

/-- More depth than there are openers makes no difference. -/
theorem cleanUpTo_eq_of_lt {depth depth' : ℕ} {options : Options} {text : Text}
    (h : openers text < depth) (h' : openers text < depth') :
    cleanUpTo namespaces depth options text = cleanUpTo namespaces depth' options text := by
  induction depth generalizing depth' options text with
  | zero => omega
  | succ depth ih =>
    cases depth' with
    | zero => omega
    | succ depth' =>
      refine cleanWith_congr id ⟨options, text⟩ fun inner hinner => ?_
      have hlt : openers inner.text < openers text :=
        openers_lt_of_mem_nestedCalls namespaces (openers_cleanUpTo_le namespaces depth) hinner
      exact ih (by omega) (by omega)

/-- **The cleaner calls itself**: the bound on the depth of nested calls is not reached. -/
theorem clean_eq_cleanWith (options : Options) (text : Text) :
    clean namespaces options text = cleanWith id namespaces (clean namespaces) options text := by
  -- inner calls get the depth of the outer text on the left, and that of their own on the right
  refine cleanWith_congr id ⟨options, text⟩ fun inner hinner => ?_
  have hlt := openers_lt_of_mem_nestedCalls namespaces (openers_cleanUpTo_le namespaces _) hinner
  exact cleanUpTo_eq_of_lt namespaces hlt (Nat.lt_succ_self _)

end

/-! ## The tree of calls -/

/-- A call of the cleaner with its result and the calls nested in it, in order. -/
inductive CallTree where
  /-- A call. -/
  | node (call : Call) (result : Traced Event Text) (inner : List CallTree)

namespace CallTree

/-- The call at the root of a tree. -/
def call : CallTree → Call
  | node call _ _ => call

/-- The result of the call at the root. -/
def result : CallTree → Traced Event Text
  | node _ result _ => result

/-- The trees of the calls nested in the call at the root. -/
def inner : CallTree → List CallTree
  | node _ _ inner => inner

end CallTree

/-- A tree records a run of the cleaner. Its call gives the result that one call gives over the
results of nested calls, and the calls nested in it are those that are made then, one tree for
each. -/
inductive IsRun (namespaces : Namespaces) : CallTree → Prop
  | node (call : Call) (nested : Options → Text → Traced Event Text) (inner : List CallTree)
    (calls : inner.map CallTree.call = nestedCalls namespaces (answers nested) call)
    (results : ∀ tree ∈ inner, tree.result = nested tree.call.options tree.call.text)
    (runs : ∀ tree ∈ inner, IsRun namespaces tree) :
    IsRun namespaces (.node call (cleanWith id namespaces nested call.options call.text) inner)

section

variable (namespaces : Namespaces)

/-- The trees of calls that have runs. -/
theorem exists_trees {calls : List Call}
    (h : ∀ call ∈ calls, ∃ tree, IsRun namespaces tree ∧ tree.call = call ∧
      tree.result = clean namespaces call.options call.text) :
    ∃ trees : List CallTree, trees.map CallTree.call = calls ∧
      ∀ tree ∈ trees, IsRun namespaces tree ∧
        tree.result = clean namespaces tree.call.options tree.call.text := by
  induction calls with
  | nil => exact ⟨[], rfl, fun _ htree => by cases htree⟩
  | cons call calls ih =>
    obtain ⟨tree, hrun, rfl, hresult⟩ := h call List.mem_cons_self
    obtain ⟨trees, rfl, htrees⟩ := ih fun other hother => h other (List.mem_cons_of_mem _ hother)
    refine ⟨tree :: trees, rfl, fun other hother => ?_⟩
    rcases List.mem_cons.mp hother with rfl | hother
    · exact ⟨hrun, hresult⟩
    · exact htrees other hother

/-- Every call has a run. The induction is on the openers of its text. -/
theorem exists_isRun (call : Call) :
    ∃ tree, IsRun namespaces tree ∧ tree.call = call ∧
      tree.result = clean namespaces call.options call.text := by
  induction hopeners : openers call.text using Nat.strong_induction_on generalizing call with
  | _ count ih =>
    subst hopeners
    obtain ⟨trees, hcalls, htrees⟩ := exists_trees namespaces fun inner hinner =>
      ih _ (openers_lt_of_mem_nestedCalls namespaces (openers_clean_le namespaces) hinner) inner rfl
    refine ⟨_, .node call (clean namespaces) trees hcalls (fun tree htree => (htrees tree htree).2)
      (fun tree htree => (htrees tree htree).1), rfl, ?_⟩
    exact (clean_eq_cleanWith namespaces call.options call.text).symm

/-- A run gives the result of the cleaner, and makes the calls that are nested in it. -/
theorem IsRun.result_eq {tree : CallTree} (h : IsRun namespaces tree) :
    tree.result = clean namespaces tree.call.options tree.call.text ∧
      tree.inner.map CallTree.call
        = nestedCalls namespaces (answers (clean namespaces)) tree.call := by
  induction h with
  | node call nested inner calls results runs ih =>
    -- the results at the inner trees may come from anywhere, but are those of the cleaner
    have hagree :
        AgreeOn (nestedCalls namespaces (answers nested) call) nested (clean namespaces) := by
      intro other hother
      rw [← calls] at hother
      obtain ⟨tree, htree, rfl⟩ := List.mem_map.mp hother
      rw [← results tree htree, (ih tree htree).1]
    constructor
    · exact (cleanWith_congr id call hagree).trans
        (clean_eq_cleanWith namespaces call.options call.text).symm
    · exact calls.trans (nestedCalls_congr hagree)

/-- In a run, a nested call has fewer openers than the call around it. -/
theorem IsRun.openers_lt {tree : CallTree} (h : IsRun namespaces tree) {inner : CallTree}
    (hinner : inner ∈ tree.inner) : openers inner.call.text < openers tree.call.text := by
  have hmem : inner.call ∈ nestedCalls namespaces (answers (clean namespaces)) tree.call := by
    rw [← h.result_eq.2]
    exact List.mem_map_of_mem hinner
  exact openers_lt_of_mem_nestedCalls namespaces (openers_clean_le namespaces) hmem

/-- The calls nested in a run are runs. -/
theorem IsRun.of_mem_inner {tree : CallTree} (h : IsRun namespaces tree) {inner : CallTree}
    (hinner : inner ∈ tree.inner) : IsRun namespaces inner := by
  cases h with
  | node call nested inner calls results runs => exact runs _ hinner

end

/-- A link whose label is longer than the link once its script is set, for the raised form of infinity
is two characters. -/
def lengthening : Call :=
  ⟨.plain, "[[a|<sup>".toList ++ List.replicate 19 '∞' ++ "</sup>]]".toList⟩

/-- A link with a raised sign makes a nested call on a longer text. -/
theorem exists_longer_call :
    ∃ inner ∈ nestedCalls .canonical (answers (clean .canonical)) lengthening,
      lengthening.text.length < inner.text.length := by
  decide +kernel

/-- **The cleaner terminates.** Every call has a run, that is, a finite tree of nested calls, and all
its runs give the result of the cleaner. In every run each nested call is a run again, on a text with
fewer openers than the text of the call that it is nested in; but that text may be longer. -/
theorem clean_terminates (namespaces : Namespaces) (call : Call) :
    (∃ tree, IsRun namespaces tree ∧ tree.call = call) ∧
      (∀ tree, IsRun namespaces tree → tree.call = call →
        tree.result = clean namespaces call.options call.text ∧
          ∀ inner ∈ tree.inner,
            IsRun namespaces inner ∧ openers inner.call.text < openers call.text) ∧
      ∃ tree, IsRun .canonical tree ∧
        ∃ inner ∈ tree.inner, tree.call.text.length < inner.call.text.length := by
  refine ⟨?_, ?_, ?_⟩
  · obtain ⟨tree, hrun, hcall, -⟩ := exists_isRun namespaces call
    exact ⟨tree, hrun, hcall⟩
  · rintro tree hrun rfl
    refine ⟨hrun.result_eq.1, fun inner hinner => ?_⟩
    exact ⟨hrun.of_mem_inner namespaces hinner, hrun.openers_lt namespaces hinner⟩
  · obtain ⟨tree, hrun, hcall, -⟩ := exists_isRun .canonical lengthening
    obtain ⟨inner, hinner, hlonger⟩ := exists_longer_call
    rw [← hcall, ← hrun.result_eq.2] at hinner
    obtain ⟨subtree, hsubtree, rfl⟩ := List.mem_map.mp hinner
    exact ⟨tree, hrun, subtree, hsubtree, hcall ▸ hlonger⟩

/-- The run on a link with a script in its label. -/
theorem clean_terminates_lengthening :
    ∃ tree, IsRun .canonical tree ∧ tree.call = lengthening ∧
      ∀ inner ∈ tree.inner, openers inner.call.text < 4 := by
  have hopeners : openers lengthening.text = 4 := by decide +kernel
  obtain ⟨⟨tree, hrun, hcall⟩, hruns, -⟩ := clean_terminates .canonical lengthening
  refine ⟨tree, hrun, hcall, fun inner hinner => ?_⟩
  rw [← hopeners]
  exact ((hruns tree hrun hcall).2 inner hinner).2

end WikiText
