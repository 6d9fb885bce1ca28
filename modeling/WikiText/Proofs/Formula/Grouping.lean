import Mathlib.Logic.Function.Iterate
import WikiText.Formula.Render
import WikiText.Proofs.Text.Trim

/-!
# Groups of a formula

Braces are collapsed level by level over the whole formula, yet each group is rendered as if its
source stood alone (`render_compositional`).

The proof is a simulation. `Collapsing content atoms` relates a sequence in which some pairs of braces
are still open to the sequence in which all of them are groups. One pass stays inside the relation
(`Collapsing.cut`) and a sequence without pairs is the collapsed one, so `flatten` computes the right
hand side from whichever stage the pairs are in. A fresh run on the source of a group and the run on
the formula around it are two such stages of one sequence.

The groups are noted while the formula is flattened, and there are no others (`groupTable_complete`).
-/

namespace WikiText.Formula

/-! ## Braces -/

namespace Atom

/-- Whether an atom is a brace. -/
def isBrace : Atom → Bool :=
  isCharOf fun c => c = '{' || c = '}'

/-- An atom that is neither brace is none. -/
theorem isBrace_eq_false {atom : Atom} (hopen : atom ≠ char '{') (hclose : atom ≠ char '}') :
    atom.isBrace = false := by
  cases atom with
  | char c =>
    have hleft : c ≠ '{' := fun heq => hopen (by rw [heq])
    have hright : c ≠ '}' := fun heq => hclose (by rw [heq])
    simp [isBrace, isCharOf, hleft, hright]
  | group source rendered => rfl

@[simp]
theorem sourceOf_nil : sourceOf [] = [] := rfl

@[simp]
theorem sourceOf_cons (atom : Atom) (atoms : List Atom) :
    sourceOf (atom :: atoms) = atom.source ++ sourceOf atoms := rfl

theorem sourceOf_append (atoms others : List Atom) :
    sourceOf (atoms ++ others) = sourceOf atoms ++ sourceOf others :=
  List.flatMap_append

/-- A property of characters that the opening brace does not have holds of the first character of a
source if it holds of the first atom. -/
theorem any_head?_sourceOf {p : Char → Bool} (h : p '{' = false) (atoms : List Atom) :
    (sourceOf atoms).head?.any p = atoms.head?.any (isCharOf p) := by
  cases atoms with
  | nil => rfl
  | cons atom rest =>
    cases atom with
    | char c => rfl
    | group source rendered => exact h

/-- A part of a sequence has a part of its source. -/
theorem sourceOf_infix {part atoms : List Atom} (h : part <:+: atoms) :
    sourceOf part <:+: sourceOf atoms := by
  obtain ⟨before, after, rfl⟩ := h
  rw [sourceOf_append, sourceOf_append]
  exact ⟨sourceOf before, sourceOf after, rfl⟩

@[simp]
theorem ofText_nil : ofText [] = [] := rfl

@[simp]
theorem ofText_append (text other : Text) : ofText (text ++ other) = ofText text ++ ofText other :=
  List.map_append

@[simp]
theorem ofText_cons (c : Char) (text : Text) : ofText (c :: text) = char c :: ofText text := rfl

/-- The source of the atoms of a text is the text. -/
theorem sourceOf_ofText (text : Text) : sourceOf (ofText text) = text := by
  induction text with
  | nil => rfl
  | cons c text ih => rw [ofText_cons, sourceOf_cons, ih]; rfl

end Atom

/-- The group that an innermost pair of braces becomes, if `text` renders what is between them. -/
def groupOf (text : List Atom → Text) (content : List Atom) : Atom :=
  .group (Atom.sourceOf content) (text content).trim

section

variable (text : List Atom → Text)

/-- A sequence in which pairs of braces with something between them may still stand, and the sequence
in which each of them is a group. -/
inductive Collapsing : List Atom → List Atom → Prop
  | nil : Collapsing [] []
  | atom {a : Atom} {stage atoms : List Atom} (ha : a.isBrace = false)
      (rest : Collapsing stage atoms) : Collapsing (a :: stage) (a :: atoms)
  | braces {inner content stage atoms : List Atom} (hne : content ≠ [])
      (inside : Collapsing inner content) (rest : Collapsing stage atoms) :
      Collapsing (.char '{' :: inner ++ .char '}' :: stage) (groupOf text content :: atoms)

/-- A sequence of characters and of groups, each of which was rendered from such a sequence. -/
inductive Grown : List Atom → Prop
  | nil : Grown []
  | char {c : Char} {atoms : List Atom} (hc : (Atom.char c).isBrace = false)
      (rest : Grown atoms) : Grown (.char c :: atoms)
  | group {content atoms : List Atom} (hne : content ≠ []) (inside : Grown content)
      (rest : Grown atoms) : Grown (groupOf text content :: atoms)

end

/-! ## One pass -/

/-- The atom that a segment becomes: itself, or a group. -/
def Segment.become (text : List Atom → Text) : Segment → Atom
  | loose atom => atom
  | braced content => groupOf text content

/-- Outside of braces, an atom that is no brace is loose. -/
theorem segmentsFrom_none_cons {a : Atom} (ha : a.isBrace = false) (rest : List Atom) :
    segmentsFrom none (a :: rest) = .loose a :: segmentsFrom none rest := by
  cases a with
  | char c => simp [Atom.isBrace, Atom.isCharOf] at ha; simp [segmentsFrom, ha]
  | group source rendered => rfl

/-- An atom at the front that is no brace is loose. -/
theorem segments_cons {a : Atom} (ha : a.isBrace = false) (rest : List Atom) :
    segments (a :: rest) = .loose a :: segments rest :=
  segmentsFrom_none_cons ha rest

/-- Behind an opening brace, an atom that is no brace is held. -/
theorem segmentsFrom_some_cons {a : Atom} (ha : a.isBrace = false) (held rest : List Atom) :
    segmentsFrom (some held) (a :: rest) = segmentsFrom (some (a :: held)) rest := by
  cases a with
  | char c => simp [Atom.isBrace, Atom.isCharOf] at ha; simp [segmentsFrom, ha]
  | group source rendered => rfl

/-- Atoms that are no braces are held back until a brace comes. -/
theorem segmentsFrom_some_append {atoms : List Atom} (h : ∀ a ∈ atoms, a.isBrace = false)
    (held rest : List Atom) :
    segmentsFrom (some held) (atoms ++ rest) = segmentsFrom (some (atoms.reverse ++ held)) rest := by
  induction atoms generalizing held with
  | nil => rfl
  | cons a atoms ih =>
    rw [List.cons_append, segmentsFrom_some_cons (h a (by simp)), ih fun b hb => h b (by simp [hb])]
    simp

/-- A pair of braces with something but no brace in it is cut out. -/
theorem segmentsFrom_closes {content : List Atom} (hne : content ≠ [])
    (h : ∀ a ∈ content, a.isBrace = false) (rest : List Atom) :
    segmentsFrom (some []) (content ++ .char '}' :: rest)
      = .braced content :: segmentsFrom none rest := by
  rw [segmentsFrom_some_append h, List.append_nil]
  cases hrev : content.reverse with
  | nil => exact absurd (List.reverse_eq_nil_iff.mp hrev) hne
  | cons last others => rw [segmentsFrom, ← hrev, List.reverse_reverse]

/-- How one pass cuts a stage of `atoms`. A stage with a pair of braces in it is cut by itself,
whatever stands before and after it; a stage without one may be held back by a brace before it. -/
structure Cut (text : List Atom → Text) (stage atoms : List Atom) : Prop where
  append : ∀ rest, segmentsFrom none (stage ++ rest) = segments stage ++ segmentsFrom none rest
  done_or_braced : (stage = atoms ∧ ∀ a ∈ stage, a.isBrace = false) ∨
    ((segments stage).any Segment.isBraced = true ∧ ∀ held rest,
      segmentsFrom (some held) (stage ++ rest)
        = Segment.unopened (some held) ++ segments stage ++ segmentsFrom none rest)
  pass : Collapsing text ((segments stage).map (Segment.become text)) atoms

theorem Cut.nil (text : List Atom → Text) : Cut text [] [] where
  append _ := rfl
  done_or_braced := .inl ⟨rfl, fun _ ha => by cases ha⟩
  pass := .nil

/-- An atom that is no brace may stand before both. -/
theorem Cut.cons {text : List Atom → Text} {stage atoms : List Atom} {a : Atom}
    (ha : a.isBrace = false) (h : Cut text stage atoms) : Cut text (a :: stage) (a :: atoms) where
  append rest := by
    rw [List.cons_append, segmentsFrom_none_cons ha, h.append, segments_cons ha, List.cons_append]
  done_or_braced := by
    rcases h.done_or_braced with ⟨rfl, hplain⟩ | ⟨hbraced, hheld⟩
    · left
      simpa [ha] using hplain
    · right
      refine ⟨by rw [segments_cons ha, List.any_cons, hbraced, Bool.or_true], ?_⟩
      intro held rest
      rw [List.cons_append, segmentsFrom_some_cons ha, hheld, segments_cons ha]
      simp [Segment.unopened]
  pass := by
    rw [segments_cons ha]
    exact .atom ha h.pass

/-- An open pair of braces is cut out, or the pairs inside it are and it stays. -/
theorem Cut.braces {text : List Atom → Text} {inner content stage atoms : List Atom}
    (hne : content ≠ []) (hinner : Cut text inner content) (h : Cut text stage atoms) :
    Cut text (.char '{' :: inner ++ .char '}' :: stage) (groupOf text content :: atoms) := by
  obtain ⟨parts, hparts, hbraced, hpass⟩ : ∃ parts : List Segment,
      (∀ rest, segmentsFrom (some []) (inner ++ .char '}' :: rest)
        = parts ++ segmentsFrom none rest) ∧
      parts.any Segment.isBraced = true ∧
      ∀ later, Collapsing text later atoms →
        Collapsing text (parts.map (Segment.become text) ++ later) (groupOf text content :: atoms) := by
    -- an innermost pair is cut out; around another pair, the braces are loose for now
    rcases hinner.done_or_braced with ⟨rfl, hplain⟩ | ⟨hbraced, hheld⟩
    · refine ⟨[.braced inner], segmentsFrom_closes hne hplain, rfl, fun later hlater => ?_⟩
      exact .atom rfl hlater
    · refine ⟨.loose (.char '{') :: segments inner ++ [.loose (.char '}')], ?_, ?_, ?_⟩
      · intro rest
        rw [hheld]
        simp [Segment.unopened, segmentsFrom]
      · simp [hbraced]
      · intro later hlater
        simpa [Segment.become] using Collapsing.braces hne hinner.pass hlater
  have hwhole : ∀ held rest, segmentsFrom held (.char '{' :: inner ++ .char '}' :: stage ++ rest)
      = Segment.unopened held ++ (parts ++ segments stage) ++ segmentsFrom none rest := by
    intro held rest
    rw [List.cons_append, List.cons_append, List.append_assoc, List.cons_append, segmentsFrom,
      hparts, h.append]
    simp
  have hsegments : segments (.char '{' :: inner ++ .char '}' :: stage) = parts ++ segments stage := by
    have hnone := hwhole none []
    rw [List.append_nil] at hnone
    rw [segments, hnone]
    exact List.append_nil _
  refine ⟨fun rest => ?_, .inr ⟨?_, fun held rest => ?_⟩, ?_⟩
  · rw [hwhole, hsegments]
    rfl
  · rw [hsegments, List.any_append, hbraced, Bool.true_or]
  · rw [hwhole, hsegments]
  · rw [hsegments, List.map_append]
    exact hpass _ h.pass

/-- A stage with pairs of braces is cut at its innermost ones. -/
theorem Collapsing.cut {text : List Atom → Text} {stage atoms : List Atom}
    (h : Collapsing text stage atoms) : Cut text stage atoms := by
  induction h with
  | nil => exact .nil text
  | atom ha _ ih => exact ih.cons ha
  | braces hne _ _ ihinner ih => exact ihinner.braces hne ih

/-! ## All passes -/

section

variable {ε : Type} {render : List Atom → Traced ε Text} {text : List Atom → Text}

/-- A pass makes each segment what the renderer makes of it. -/
theorem value_collapse (hrender : ∀ content, (render content).value = text content)
    (parts : List Segment) : (collapse render parts).value = parts.map (Segment.become text) := by
  rw [collapse, Traced.value_traverse]
  refine List.map_congr_left fun part _ => ?_
  cases part with
  | loose atom => rfl
  | braced content => simp [Segment.toAtom, Segment.become, groupOf, hrender]

/-- What is noted of a pair of braces is what is noted of its content. -/
theorem trace_toAtom_braced (render : List Atom → Traced ε Text) (content : List Atom) :
    (Segment.toAtom render (.braced content)).trace = (render content).trace :=
  List.append_nil _

/-- **Flattening is independent of the stage.** Whatever pairs of braces are groups already, the
passes end at the same sequence. -/
theorem Collapsing.value_flatten (hrender : ∀ content, (render content).value = text content)
    {stage atoms : List Atom} (h : Collapsing text stage atoms) :
    (flatten render stage).value = atoms := by
  fun_induction flatten render stage with
  | case1 stage parts hbraced pass flat ih =>
    refine ih ?_
    rw [show pass.value = _ from value_collapse hrender _]
    exact h.cut.pass
  | case2 stage parts hbraced =>
    rcases h.cut.done_or_braced with ⟨rfl, -⟩ | ⟨hany, -⟩
    · rfl
    · exact absurd hany hbraced

/-- What one pass preserves holds after all of them, and what is noted is noted of something between
innermost braces of a stage. -/
theorem flatten_invariant (hrender : ∀ content, (render content).value = text content)
    {Stage Inside : List Atom → Prop}
    (hinside : ∀ stage, Stage stage → ∀ content, .braced content ∈ segments stage → Inside content)
    (hpass : ∀ stage, Stage stage → Stage ((segments stage).map (Segment.become text)))
    {atoms : List Atom} (h : Stage atoms) :
    Stage (flatten render atoms).value ∧
      ∀ e ∈ (flatten render atoms).trace, ∃ content, Inside content ∧ e ∈ (render content).trace := by
  fun_induction flatten render atoms with
  | case1 atoms parts hbraced pass flat ih =>
    have hvalue : pass.value = parts.map (Segment.become text) := value_collapse hrender parts
    obtain ⟨hstage, hlater⟩ := ih (by rw [hvalue]; exact hpass atoms h)
    refine ⟨hstage, fun e he => ?_⟩
    -- an event of this pass is that of a content in braces, and others come from later passes
    rcases List.mem_append.mp he with he | he
    · simp only [pass, collapse, Traced.trace_traverse, List.mem_flatMap] at he
      obtain ⟨part, hpart, he⟩ := he
      cases part with
      | loose atom => cases he
      | braced content =>
        rw [trace_toAtom_braced] at he
        exact ⟨content, hinside atoms h content hpart, he⟩
    · exact hlater e he
  | case2 atoms parts hbraced => exact ⟨h, fun e he => by cases he⟩

end

/-! ## Fresh runs -/

/-- Without braces, nothing is collapsed. -/
theorem collapsing_of_forall {text : List Atom → Text} {atoms : List Atom}
    (h : ∀ a ∈ atoms, a.isBrace = false) : Collapsing text atoms atoms := by
  induction atoms with
  | nil => exact .nil
  | cons a atoms ih =>
    obtain ⟨ha, hatoms⟩ := List.forall_mem_cons.mp h
    exact .atom ha (ih hatoms)

/-- The source of a grown sequence is a stage of it. -/
theorem Grown.collapsing {text : List Atom → Text} {atoms : List Atom} (h : Grown text atoms) :
    Collapsing text (Atom.ofText (Atom.sourceOf atoms)) atoms := by
  induction h with
  | nil => exact .nil
  | char hc _ ih => exact .atom hc ih
  | group hne _ _ ihinside ih =>
    simpa [groupOf, Atom.source] using Collapsing.braces hne ihinside ih

/-- The text that `renderFlat` gives to a sequence. -/
def flatText (atoms : List Atom) : Text :=
  (renderFlat atoms).value

/-- The text of a formula is that of its flattened atoms. -/
theorem value_render (formula : Text) :
    (render formula).value = flatText (flatten renderFlat (Atom.ofText formula)).value := rfl

/-- The text of a formula is that of any sequence its atoms collapse to. -/
theorem Collapsing.value_render {formula : Text} {atoms : List Atom}
    (h : Collapsing flatText (Atom.ofText formula) atoms) :
    (render formula).value = flatText atoms := by
  rw [Formula.value_render, h.value_flatten fun _ => rfl]

/-! ## The table of groups -/

/-- A group as it is created: the source between its braces, and its rendering. -/
structure GroupEntry where
  /-- The source between the braces. -/
  source : Text
  /-- What the group is rendered as. -/
  rendered : Text
  deriving DecidableEq, Repr

/-- Renders what is between an innermost pair of braces and notes the group that it becomes. -/
def enter (content : List Atom) : Traced GroupEntry Text :=
  ⟨flatText content, [⟨Atom.sourceOf content, (flatText content).trim⟩]⟩

/-- The groups created while a formula is rendered, in the order of their creation. -/
def groupTable (formula : Text) : List GroupEntry :=
  (flatten enter (Atom.ofText formula)).trace

/-- The text of a pass depends on the texts of the contents only. -/
theorem value_collapse_congr {ε ζ : Type} {render : List Atom → Traced ε Text}
    {render' : List Atom → Traced ζ Text}
    (h : ∀ content, (render content).value = (render' content).value) (parts : List Segment) :
    (collapse render parts).value = (collapse render' parts).value := by
  rw [value_collapse h]
  exact (value_collapse (fun _ => rfl) parts).symm

/-- What is noted while a formula is flattened does not change what it is flattened to. -/
theorem value_flatten_congr {ε ζ : Type} {render : List Atom → Traced ε Text}
    {render' : List Atom → Traced ζ Text}
    (h : ∀ content, (render content).value = (render' content).value) (atoms : List Atom) :
    (flatten render atoms).value = (flatten render' atoms).value := by
  fun_induction flatten render atoms with
  | case1 atoms parts hbraced pass flat ih =>
    rw [flatten, dif_pos hbraced]
    have hpass : pass.value = (collapse render' parts).value := value_collapse_congr h parts
    show flat.value = (flatten render' (collapse render' parts).value).value
    rw [← hpass]
    exact ih
  | case2 atoms parts hbraced =>
    rw [flatten, dif_neg hbraced]
    rfl

/-- Counting entries does not change what a formula is flattened to. -/
theorem value_flatten_enter (atoms : List Atom) :
    (flatten enter atoms).value = (flatten renderFlat atoms).value := by
  refine value_flatten_congr (fun content => ?_) atoms
  rfl

/-- An atom of a formula that is being flattened: a character, or a group of a grown sequence. -/
def IsGrown (text : List Atom → Text) (a : Atom) : Prop :=
  (∃ c, a = .char c) ∨ ∃ content, content ≠ [] ∧ Grown text content ∧ a = groupOf text content

/-- Atoms that have grown and are no braces are a grown sequence. -/
theorem grown_of_forall {text : List Atom → Text} {atoms : List Atom}
    (h : ∀ a ∈ atoms, IsGrown text a ∧ a.isBrace = false) : Grown text atoms := by
  induction atoms with
  | nil => exact .nil
  | cons a atoms ih =>
    have hrest : Grown text atoms := ih fun b hb => h b (List.mem_cons_of_mem a hb)
    obtain ⟨⟨c, rfl⟩ | ⟨content, hne, hcontent, rfl⟩, hbrace⟩ := h a List.mem_cons_self
    · exact .char hbrace hrest
    · exact .group hne hcontent hrest

/-- A segment of atoms with a property, in which a pair of braces holds at least one atom and no
brace. -/
def Segment.All (P : Atom → Prop) : Segment → Prop
  | loose atom => P atom
  | braced content => content ≠ [] ∧ ∀ a ∈ content, P a ∧ a.isBrace = false

/-- What holds of a brace and of the held atoms holds of what is given back for a brace that is not
closed. -/
theorem all_unopened {P : Atom → Prop} (hbrace : P (.char '{')) {held : Option (List Atom)}
    (hheld : ∀ others ∈ held, ∀ a ∈ others, P a ∧ a.isBrace = false) :
    ∀ part ∈ Segment.unopened held, part.All P := by
  intro part hpart
  cases held with
  | none => cases hpart
  | some others =>
    simp only [Segment.unopened, List.mem_cons, List.mem_map, List.mem_reverse] at hpart
    rcases hpart with rfl | ⟨a, ha, rfl⟩
    · exact hbrace
    · exact (hheld others rfl a ha).1

/-- What holds of the atoms of a sequence holds of those in its segments. -/
theorem all_segmentsFrom {P : Atom → Prop} (hchar : ∀ c, P (.char c)) (held : Option (List Atom))
    (atoms : List Atom) (hheld : ∀ others ∈ held, ∀ a ∈ others, P a ∧ a.isBrace = false)
    (hatoms : ∀ a ∈ atoms, P a) : ∀ part ∈ segmentsFrom held atoms, part.All P := by
  fun_induction segmentsFrom held atoms with
  | case1 held => exact all_unopened (hchar '{') hheld
  | case2 held rest ih =>
    intro part hpart
    rcases List.mem_append.mp hpart with hpart | hpart
    · exact all_unopened (hchar '{') hheld part hpart
    · refine ih (by simp) (fun a ha => hatoms a (List.mem_cons_of_mem _ ha)) part hpart
  -- a closing brace makes a segment of what is held
  | case3 rest last others ih =>
    intro part hpart
    rcases List.mem_cons.mp hpart with rfl | hpart
    · exact ⟨by simp, fun a ha => hheld _ rfl a (List.mem_reverse.mp ha)⟩
    · exact ih (by simp) (fun a ha => hatoms a (List.mem_cons_of_mem _ ha)) part hpart
  | case4 held rest _ ih =>
    intro part hpart
    rcases List.mem_append.mp hpart with hpart | hpart
    · exact all_unopened (hchar '{') hheld part hpart
    · rcases List.mem_cons.mp hpart with rfl | hpart
      · exact hchar '}'
      · exact ih (by simp) (fun a ha => hatoms a (List.mem_cons_of_mem _ ha)) part hpart
  | case5 atom rest hopen hclose others ih =>
    have hbrace : atom.isBrace = false := Atom.isBrace_eq_false hopen hclose
    refine ih ?_ fun a ha => hatoms a (List.mem_cons_of_mem _ ha)
    intro others' hothers a ha
    obtain rfl := Option.mem_some_iff.mp hothers
    rcases List.mem_cons.mp ha with rfl | ha
    · exact ⟨hatoms _ List.mem_cons_self, hbrace⟩
    · exact hheld others rfl a ha
  | case6 atom rest _ _ ih =>
    intro part hpart
    rcases List.mem_cons.mp hpart with rfl | hpart
    · exact hatoms _ List.mem_cons_self
    · exact ih (by simp) (fun a ha => hatoms a (List.mem_cons_of_mem _ ha)) part hpart

/-- A segment of grown atoms becomes a grown atom. -/
theorem isGrown_become {text : List Atom → Text} {part : Segment} (h : part.All (IsGrown text)) :
    IsGrown text (part.become text) := by
  cases part with
  | loose atom => exact h
  | braced content => exact .inr ⟨content, h.1, grown_of_forall h.2, rfl⟩

/-- Every group that is created was rendered from a grown sequence. -/
theorem grown_of_mem_trace {atoms : List Atom} (hatoms : ∀ a ∈ atoms, IsGrown flatText a)
    {entry : GroupEntry} (hentry : entry ∈ (flatten enter atoms).trace) :
    ∃ content, Grown flatText content ∧
      entry = ⟨Atom.sourceOf content, (flatText content).trim⟩ := by
  -- the stages of the collapse have grown atoms, and so has what stands in braces
  have hparts : ∀ stage : List Atom, (∀ a ∈ stage, IsGrown flatText a) →
      ∀ part ∈ segments stage, part.All (IsGrown flatText) := fun stage hstage =>
    all_segmentsFrom (fun c => .inl ⟨c, rfl⟩) none stage (by simp) hstage
  have hinside : ∀ stage : List Atom, (∀ a ∈ stage, IsGrown flatText a) →
      ∀ content, .braced content ∈ segments stage → Grown flatText content :=
    fun stage hstage content hcontent => grown_of_forall (hparts stage hstage _ hcontent).2
  have hpass : ∀ stage : List Atom, (∀ a ∈ stage, IsGrown flatText a) →
      ∀ a ∈ (segments stage).map (Segment.become flatText), IsGrown flatText a := by
    intro stage hstage a ha
    obtain ⟨part, hpart, rfl⟩ := List.mem_map.mp ha
    exact isGrown_become (hparts stage hstage part hpart)
  have henter : ∀ content, (enter content).value = flatText content := fun _ => rfl
  obtain ⟨content, hcontent, hmem⟩ :=
    (flatten_invariant henter hinside hpass hatoms).2 entry hentry
  exact ⟨content, hcontent, List.mem_singleton.mp hmem⟩

/-! ## Nothing is left to collapse

What is rendered after the passes, the degrees of roots included, are parts of the flattened
sequence. No part of it holds a pair of braces that could become a group. -/

/-- A sequence holds a pair of braces with something but no brace in it. -/
def HasPair (atoms : List Atom) : Prop :=
  ∃ front content rest, atoms = front ++ .char '{' :: content ++ .char '}' :: rest ∧
    content ≠ [] ∧ ∀ a ∈ content, a.isBrace = false

/-- A pair of braces in a part is one in the whole. -/
theorem HasPair.of_part {part atoms : List Atom} (h : HasPair part) (hin : part <:+: atoms) :
    HasPair atoms := by
  obtain ⟨front, content, rest, rfl, hne, hplain⟩ := h
  obtain ⟨before, after, rfl⟩ := hin
  exact ⟨before ++ front, content, rest ++ after, by simp, hne, hplain⟩

/-- A sequence with a pair has both braces. -/
theorem HasPair.mem {atoms : List Atom} (h : HasPair atoms) :
    .char '{' ∈ atoms ∧ .char '}' ∈ atoms := by
  obtain ⟨front, content, rest, rfl, -⟩ := h
  constructor <;> simp

/-- A pair of braces is cut out wherever it stands. -/
theorem HasPair.any_isBraced {atoms : List Atom} (h : HasPair atoms)
    (held : Option (List Atom)) : (segmentsFrom held atoms).any Segment.isBraced = true := by
  obtain ⟨front, content, rest, rfl, hne, hplain⟩ := h
  induction front generalizing held with
  | nil =>
    rw [List.nil_append, List.cons_append, segmentsFrom, segmentsFrom_closes hne hplain]
    simp [Segment.isBraced]
  | cons a front ih =>
    simp only [List.append_assoc, List.cons_append] at ih ⊢
    by_cases ha : a.isBrace = true
    · cases a with
      | group source rendered => cases ha
      | char c =>
        rcases (by simpa [Atom.isBrace, Atom.isCharOf] using ha) with rfl | rfl
        -- another opening brace gives back what was held, and the pair comes behind it
        · rw [segmentsFrom, List.any_append, ih, Bool.or_true]
        · rcases held with _ | _ | ⟨last, others⟩ <;> simp [segmentsFrom, ih]
    · rw [Bool.not_eq_true] at ha
      cases held with
      | none => rw [segmentsFrom_none_cons ha, List.any_cons, ih, Bool.or_true]
      | some others => rw [segmentsFrom_some_cons ha, ih]

/-- The atoms that are held back, with the brace before them. -/
def heldAtoms : Option (List Atom) → List Atom
  | none => []
  | some held => .char '{' :: held.reverse

/-- The atoms that a segment is cut from. -/
def Segment.atoms : Segment → List Atom
  | loose atom => [atom]
  | braced content => .char '{' :: content ++ [.char '}']

/-- Nothing is lost when a sequence is cut. -/
theorem flatMap_segmentsFrom (held : Option (List Atom)) (atoms : List Atom) :
    (segmentsFrom held atoms).flatMap Segment.atoms = heldAtoms held ++ atoms := by
  have hunopened : ∀ held, (Segment.unopened held).flatMap Segment.atoms = heldAtoms held := by
    intro held
    cases held with
    | none => rfl
    | some others =>
      rw [Segment.unopened, List.flatMap_cons, List.flatMap_map]
      exact congrArg (.char '{' :: ·) (List.flatMap_singleton' others.reverse)
  fun_induction segmentsFrom held atoms with
  | case1 held => rw [hunopened, List.append_nil]
  | case2 held rest ih =>
    rw [List.flatMap_append, hunopened, ih]
    rfl
  | case3 rest last others ih =>
    rw [List.flatMap_cons, ih]
    simp [Segment.atoms, heldAtoms]
  | case4 held rest _ ih =>
    rw [List.flatMap_append, hunopened, List.flatMap_cons, ih]
    rfl
  | case5 atom rest _ _ others ih =>
    rw [ih]
    simp [heldAtoms]
  | case6 atom rest _ _ ih =>
    rw [List.flatMap_cons, ih]
    rfl

/-- The segments of a sequence give its atoms back. -/
theorem flatMap_segments (atoms : List Atom) : (segments atoms).flatMap Segment.atoms = atoms :=
  flatMap_segmentsFrom none atoms

/-- Only a pair of braces is cut out. -/
theorem hasPair_of_any_isBraced (held : Option (List Atom)) (atoms : List Atom)
    (hheld : ∀ others ∈ held, ∀ a ∈ others, a.isBrace = false)
    (h : (segmentsFrom held atoms).any Segment.isBraced = true) :
    HasPair (heldAtoms held ++ atoms) := by
  have hunopened : ∀ held, (Segment.unopened held).any Segment.isBraced = false := by
    intro held
    rw [← Bool.not_eq_true, List.any_eq_true, ← List.countP_pos_iff, countP_unopened]
    exact lt_irrefl 0
  fun_induction segmentsFrom held atoms with
  | case1 held => rw [hunopened] at h; cases h
  | case2 held rest ih =>
    rw [List.any_append, hunopened, Bool.false_or] at h
    exact (ih (by simp) h).of_part (List.suffix_append _ _).isInfix
  | case3 rest last others ih =>
    -- the pair that is cut out: the brace held back, and the atoms after it
    exact ⟨[], (last :: others).reverse, rest, by simp [heldAtoms], by simp,
      fun a ha => hheld _ rfl a (List.mem_reverse.mp ha)⟩
  | case4 held rest _ ih =>
    rw [List.any_append, hunopened, Bool.false_or, List.any_cons, Segment.isBraced,
      Bool.false_or] at h
    exact (ih (by simp) h).of_part
      ((List.suffix_cons _ rest).trans (List.suffix_append _ _)).isInfix
  | case5 atom rest hopen hclose others ih =>
    have hbrace : atom.isBrace = false := Atom.isBrace_eq_false hopen hclose
    have ih := ih (by simpa [hbrace] using hheld) h
    simpa [heldAtoms] using ih
  | case6 atom rest _ _ ih =>
    rw [List.any_cons, Segment.isBraced, Bool.false_or] at h
    exact (ih (by simp) h).of_part (List.suffix_cons _ rest).isInfix

/-- The passes end at a sequence without pairs. -/
theorem not_hasPair_flatten {ε : Type} (render : List Atom → Traced ε Text) (atoms : List Atom) :
    ¬ HasPair (flatten render atoms).value := by
  fun_induction flatten render atoms with
  | case1 atoms parts hbraced pass flat ih => exact ih
  | case2 atoms parts hbraced => exact fun hpair => hbraced (hpair.any_isBraced none)

/-- A sequence without pairs is flat. -/
theorem flatten_of_not_hasPair {ε : Type} (render : List Atom → Traced ε Text) {atoms : List Atom}
    (h : ¬ HasPair atoms) : flatten render atoms = pure atoms := by
  have hnone : ¬ (segments atoms).any Segment.isBraced = true := fun hany =>
    h (by simpa [heldAtoms] using hasPair_of_any_isBraced none atoms (by simp) hany)
  rw [flatten, dif_neg hnone]

/-- Every part of a flattened sequence is flat, so that rendering it creates no group. -/
theorem flatten_of_part {ε ζ : Type} (render : List Atom → Traced ε Text)
    (render' : List Atom → Traced ζ Text) {atoms part : List Atom}
    (h : part <:+: (flatten render atoms).value) : flatten render' part = pure part :=
  flatten_of_not_hasPair render' fun hpair => not_hasPair_flatten render atoms (hpair.of_part h)

/-- The table holds all groups: to note them does not change what a formula is flattened to, and no
part of that creates another, be it rendered by itself. -/
theorem groupTable_complete (formula : Text) :
    (flatten enter (Atom.ofText formula)).value
        = (flatten renderFlat (Atom.ofText formula)).value ∧
      ∀ part, part <:+: (flatten renderFlat (Atom.ofText formula)).value →
        (flatten enter part).trace = [] := by
  refine ⟨value_flatten_enter _, fun part hpart => ?_⟩
  rw [flatten_of_part renderFlat enter hpart]
  rfl

/-! ## Braces around a formula -/

/-- Whether the braces of a text are balanced when `depth` of them are open before it. -/
def balanced (depth : ℕ) : Text → Bool
  | [] => depth = 0
  | c :: rest =>
    if c = '{' then balanced (depth + 1) rest
    else if c = '}' then 0 < depth && balanced (depth - 1) rest
    else balanced depth rest

/-- A text in braces. -/
def inBraces (text : Text) : Text :=
  '{' :: text ++ ['}']

/-- A stage that is not empty collapses to something. -/
theorem Collapsing.ne_nil {text : List Atom → Text} {stage atoms : List Atom}
    (h : Collapsing text stage atoms) (hne : stage ≠ []) : atoms ≠ [] := by
  cases h with
  | nil => exact absurd rfl hne
  | atom => exact List.cons_ne_nil _ _
  | braces => exact List.cons_ne_nil _ _

/-- What balanced braces say of a text, by how many braces are open before it: without any, the text
is a stage of some sequence; else the part of it up to the brace that closes the innermost is. -/
def Balances (text : List Atom → Text) (formula : Text) : ℕ → Prop
  | 0 => ∃ atoms, Collapsing text (Atom.ofText formula) atoms
  | outer + 1 => ∃ inside rest atoms, formula = inside ++ '}' :: rest ∧
      Collapsing text (Atom.ofText inside) atoms ∧ balanced outer rest = true

/-- Reads a text with balanced braces and no empty pair. An open brace is read up to the brace that
closes it, and then what follows, so the induction is on the length. -/
theorem balances_of_balanced (text : List Atom → Text) (formula : Text) (depth : ℕ)
    (hbalanced : balanced depth formula = true) (hfull : ¬ ['{', '}'] <:+: formula) :
    Balances text formula depth := by
  induction hlength : formula.length using Nat.strong_induction_on generalizing formula depth with
  | _ length ih =>
    cases formula with
    | nil =>
      obtain rfl : depth = 0 := by simpa [balanced] using hbalanced
      exact ⟨[], .nil⟩
    | cons c rest =>
      have hrest : ¬ ['{', '}'] <:+: rest := fun hin =>
        hfull (hin.trans (List.suffix_cons c rest).isInfix)
      rw [balanced] at hbalanced
      by_cases hopen : c = '{'
      · -- the text up to the brace that closes this one becomes a group
        rw [if_pos hopen] at hbalanced
        obtain ⟨inside, after, content, rfl, hcontent, hafter⟩ :=
          ih rest.length (by rw [← hlength]; simp) rest (depth + 1) hbalanced hrest rfl
        have hinside : inside ≠ [] := by
          rintro rfl
          exact hfull ⟨[], after, by simp [hopen]⟩
        have hcontent' : content ≠ [] := hcontent.ne_nil (by simpa [Atom.ofText] using hinside)
        have hlater := ih after.length (by rw [← hlength]; simp; omega) after depth hafter
          (fun hin => hrest (hin.trans
            ((List.suffix_cons '}' after).trans (List.suffix_append inside _)).isInfix)) rfl
        subst hopen
        cases depth with
        | zero =>
          obtain ⟨atoms, hatoms⟩ := hlater
          exact ⟨_, by simpa using Collapsing.braces hcontent' hcontent hatoms⟩
        | succ outer =>
          obtain ⟨inside', rest', atoms, rfl, hatoms, hrest'⟩ := hlater
          refine ⟨'{' :: inside ++ '}' :: inside', rest', groupOf text content :: atoms, by simp,
            ?_, hrest'⟩
          simpa using Collapsing.braces hcontent' hcontent hatoms
      · by_cases hclose : c = '}'
        · -- the innermost open brace is closed here, after nothing
          rw [if_neg hopen, if_pos hclose, Bool.and_eq_true, decide_eq_true_eq] at hbalanced
          obtain ⟨outer, rfl⟩ := Nat.exists_eq_add_of_lt hbalanced.1
          refine ⟨[], rest, [], by simp [hclose], .nil, by simpa using hbalanced.2⟩
        · rw [if_neg hopen, if_neg hclose] at hbalanced
          have hc : (Atom.char c).isBrace = false := by
            simp [Atom.isBrace, Atom.isCharOf, hopen, hclose]
          have hlater := ih rest.length (by rw [← hlength]; simp) rest depth hbalanced hrest rfl
          cases depth with
          | zero =>
            obtain ⟨atoms, hatoms⟩ := hlater
            exact ⟨_, .atom hc hatoms⟩
          | succ outer =>
            obtain ⟨inside, after, atoms, rfl, hatoms, hafter⟩ := hlater
            exact ⟨c :: inside, after, _, rfl, .atom hc hatoms, hafter⟩

theorem Token.all_nil : all [] = [] := by
  rw [all]
  rfl

/-- The tokens of a sequence are the first one and those of what it leaves. -/
theorem Token.all_of_some {atoms rest : List Atom} {token : Token}
    (h : scanner.run atoms = some (token, rest)) : all atoms = token :: all rest := by
  rw [all]
  split
  · next token' rest' h' =>
    cases h.symm.trans h'
    rfl
  · next h' => cases h.symm.trans h'

/-- A group that stands alone is one item. -/
theorem all_group (source rendered : Text) :
    Token.all [.group source rendered] = [.item none none (.group rendered)] := by
  have hrun : Token.scanner.run [.group source rendered]
      = some (.item none none (.group rendered), []) := rfl
  rw [Token.all_of_some hrun, Token.all_nil]

/-- Nothing is put before the first text. -/
theorem joinParts_singleton (part : Text) : joinParts none [part] = part := by
  cases part with
  | nil => rfl
  | cons c part => simp [joinParts, runsTogether]

/-- A group that stands alone is shown as it was rendered. -/
theorem flatText_group (source rendered : Text) : flatText [.group source rendered] = rendered := by
  have hjoin : flatText [.group source rendered] = joinParts none [rendered] := by
    rw [flatText, renderFlat, renderFlatUpTo, Traced.value_bind, Traced.value_traverse, all_group]
    rfl
  rw [hjoin, joinParts_singleton]

/-- Braces around a formula whose pairs all become groups make one group of it. -/
theorem Collapsing.inBraces {text : List Atom → Text} {formula : Text} {atoms : List Atom}
    (h : Collapsing text (Atom.ofText formula) atoms) (hne : atoms ≠ []) :
    Collapsing text (Atom.ofText (inBraces formula)) [groupOf text atoms] := by
  simpa [Formula.inBraces] using Collapsing.braces hne h .nil

/-- Braces around such a formula only trim its rendering. -/
theorem value_render_inBraces {formula : Text} {atoms : List Atom}
    (h : Collapsing flatText (Atom.ofText formula) atoms) (hne : atoms ≠ []) :
    (render (inBraces formula)).value = (render formula).value.trim := by
  rw [(h.inBraces hne).value_render, h.value_render, groupOf, flatText_group]

/-- Braces around braces change nothing more. -/
theorem value_render_iterate_inBraces {formula : Text} {atoms : List Atom}
    (h : Collapsing flatText (Atom.ofText formula) atoms) (hne : atoms ≠ []) (depth : ℕ) :
    (render (inBraces^[depth + 1] formula)).value = (render formula).value.trim := by
  induction depth generalizing formula atoms with
  | zero => exact value_render_inBraces h hne
  | succ depth ih =>
    rw [Function.iterate_succ_apply, ih (h.inBraces hne) (List.cons_ne_nil _ _),
      value_render_inBraces h hne, Text.trim_trim]

/-- **Groups are rendered compositionally.** Each group that is created while a formula is rendered
shows the trimmed rendering of its own source. So braces around a formula with balanced braces, none
of them empty, only trim it, at any depth. -/
theorem render_compositional (formula : Text) :
    (∀ entry ∈ groupTable formula, entry.rendered = (render entry.source).value.trim) ∧
    (formula ≠ [] → balanced 0 formula = true → Text.occursIn ['{', '}'] formula = false →
      ∀ depth, (render (inBraces^[depth + 1] formula)).value = (render formula).value.trim) := by
  constructor
  · intro entry hentry
    have hatoms : ∀ a ∈ Atom.ofText formula, IsGrown flatText a := by
      intro a ha
      obtain ⟨c, -, rfl⟩ := List.mem_map.mp ha
      exact .inl ⟨c, rfl⟩
    obtain ⟨content, hcontent, rfl⟩ := grown_of_mem_trace hatoms hentry
    rw [hcontent.collapsing.value_render]
  · intro hne hbalanced hfull depth
    obtain ⟨atoms, hatoms⟩ :=
      balances_of_balanced flatText formula 0 hbalanced (Text.occursIn_eq_false_iff.mp hfull)
    exact value_render_iterate_inBraces hatoms (hatoms.ne_nil (by simpa [Atom.ofText] using hne)) depth

/-- Braces around a power only trim it. -/
theorem render_power_in_braces :
    "x^{2}".toList ≠ [] ∧ balanced 0 "x^{2}".toList = true ∧
      Text.occursIn ['{', '}'] "x^{2}".toList = false ∧
      (render (inBraces "x^{2}".toList)).value = (render "x^{2}".toList).value.trim := by
  have hne : "x^{2}".toList ≠ [] := by decide
  have hbalanced : balanced 0 "x^{2}".toList = true := by decide
  have hfull : Text.occursIn ['{', '}'] "x^{2}".toList = false := by decide
  exact ⟨hne, hbalanced, hfull, (render_compositional _).2 hne hbalanced hfull 0⟩

end WikiText.Formula
