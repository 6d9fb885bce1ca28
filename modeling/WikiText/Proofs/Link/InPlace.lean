import WikiText.Proofs.Link.Outline

/-!
# Links resolved in place

A pass over links may be made in one buffer: what is read is appended to it, each open link is
remembered by the place of its opening brackets there, and what becomes of a link is written over it.
A link that goes takes all white space at the end of the buffer along, which ends at the brackets of
the link around it.

The pass that keeps the texts before open links apart is this one. `Buffer.ofScan` is the buffer at
a place of that pass; each step in place leads from one such buffer to the next, so every remembered
place is one of opening brackets, and the content behind them can always be read.
-/

namespace WikiText.Link

open Unicode (isWhiteSpace)

variable {ε : Type}

/-! ## Steps in place -/

/-- An open link, by the place of its opening brackets in a buffer. -/
structure Frame where
  /-- How many characters stand before the brackets. -/
  start : ℕ
  /-- How many single brackets are open in the label. -/
  brackets : ℕ
  /-- Whether the label has begun. -/
  piped : Bool
  deriving DecidableEq, Repr

/-- An open link after one more character of its content. -/
def Frame.see (frame : Frame) (c : Char) : Frame :=
  if c = '|' && frame.brackets = 0 then { frame with piped := true }
  else if c = '[' && frame.piped then { frame with brackets := frame.brackets + 1 }
  else if c = ']' then { frame with brackets := frame.brackets - 1 }
  else frame

/-- A pass in place: what is written, the open links, innermost first, and what is still to be
read. -/
structure Buffer where
  /-- What is written. -/
  out : Text
  /-- The open links. -/
  frames : List Frame
  /-- What is to be read. -/
  rest : Text
  deriving DecidableEq, Repr

namespace Buffer

/-- The pass before its first step. -/
def start (text : Text) : Buffer :=
  ⟨[], [], text⟩

/-- What is written behind the two characters at a place, if there are two. -/
def contentAt? (buffer : Buffer) (place : ℕ) : Option Text :=
  if place + 2 ≤ buffer.out.length then some (buffer.out.drop (place + 2)) else none

/-- Writes a character, which the innermost open link sees. -/
def push (buffer : Buffer) (c : Char) (rest : Text) : Buffer :=
  ⟨buffer.out ++ [c], buffer.frames.modifyHead (·.see c), rest⟩

/-- Writes what becomes of the link that opens at a place over it. -/
def write (buffer : Buffer) (place : ℕ) : Action → Text
  | .replace text => buffer.out.take place ++ text
  | .drop => Text.trimEnd (buffer.out.take place)
  | .keep => buffer.out ++ [']', ']']

/-- One step in place, which fails if the content of a link cannot be read. At the end of the text
there is nothing to do. -/
def step (resolve : Text → Traced ε Action) (buffer : Buffer) : Traced ε (Option Buffer) :=
  match buffer.rest with
  | [] => pure (some buffer)
  | '[' :: '[' :: rest =>
    pure (some ⟨buffer.out ++ ['[', '['], ⟨buffer.out.length, 0, false⟩ :: buffer.frames, rest⟩)
  | ']' :: ']' :: rest =>
    match buffer.frames with
    | frame :: outer =>
      if frame.brackets = 0 then
        match buffer.contentAt? frame.start with
        | some content => do
          let action ← resolve content
          return some ⟨buffer.write frame.start action, outer, rest⟩
        | none => pure none
      else pure (some (buffer.push ']' (']' :: rest)))
    | [] => pure (some (buffer.push ']' (']' :: rest)))
  | c :: rest => pure (some (buffer.push c rest))

/-- Some number of steps in place, with what is noted in them. -/
inductive Runs (resolve : Text → Traced ε Action) : Buffer → List ε → Buffer → Prop where
  /-- No step. -/
  | refl (buffer : Buffer) : Runs resolve buffer [] buffer
  /-- A step, and those after it. -/
  | head {buffer next last : Buffer} {trace : List ε}
    (step : (buffer.step resolve).value = some next) (more : Runs resolve next trace last) :
    Runs resolve buffer ((buffer.step resolve).trace ++ trace) last

/-- The content of a link is what is written behind its brackets. -/
theorem contentAt?_eq {buffer : Buffer} {front content : Text}
    (h : buffer.out = front ++ '[' :: '[' :: content) :
    buffer.contentAt? front.length = some content := by
  rw [contentAt?, h, if_pos]
  · rw [← List.drop_drop, List.drop_left]
    rfl
  · simp only [List.length_append, List.length_cons]
    omega

/-- What becomes of a link is written behind what stands before its opening brackets. -/
theorem write_eq {buffer : Buffer} {front content : Text}
    (h : buffer.out = front ++ '[' :: '[' :: content) (action : Action) :
    buffer.write front.length action = action.edit front content := by
  cases action with
  | replace text => rw [write, h, List.take_left, Action.edit]
  | drop => rw [write, h, List.take_left, Action.edit]
  | keep => simp [write, h, Action.edit]

/-! ## The buffer at a place of a pass -/

/-- The places of the opening brackets of open links. -/
def framesOf : List OpenLink → List Frame
  | [] => []
  | link :: outer =>
    ⟨(opened outer ++ link.before.reverse).length, link.brackets, link.piped⟩ :: framesOf outer

/-- The buffer that holds what a pass keeps apart: `inside` is the text since the innermost open
link, in reverse. -/
def ofScan (inside : Text) (links : List OpenLink) (rest : Text) : Buffer :=
  ⟨opened links ++ inside.reverse, framesOf links, rest⟩

/-- A character is seen by the frame of the innermost link. -/
theorem framesOf_seeInside (c : Char) (links : List OpenLink) :
    framesOf (seeInside c links) = (framesOf links).modifyHead (·.see c) := by
  cases links with
  | nil => rfl
  | cons link outer =>
    simp only [seeInside, framesOf, List.modifyHead_cons, before_see]
    congr 1
    unfold OpenLink.see Frame.see
    grind

/-- Every remembered place is one of opening brackets. -/
theorem prefix_of_mem_framesOf {links : List OpenLink} {frame : Frame}
    (h : frame ∈ framesOf links) (text : Text) :
    ['[', '['] <+: (opened links ++ text).drop frame.start := by
  induction links generalizing text with
  | nil => cases h
  | cons link outer ih =>
    rcases List.mem_cons.mp h with rfl | hmem
    · rw [opened, List.append_assoc, List.drop_left]
      exact List.prefix_append _ _
    · have houter := ih hmem (link.before.reverse ++ ['[', '['] ++ text)
      rwa [opened, List.append_assoc, List.append_assoc, ← List.append_assoc link.before.reverse]

/-- White space at the end of what is written ends at the brackets of the innermost open link. -/
theorem trimEnd_opened (links : List OpenLink) (text : Text) :
    Text.trimEnd (opened links ++ text) = opened links ++ Text.trimEnd text := by
  cases links with
  | nil => rfl
  | cons link outer =>
    -- a bracket is no white space, whatever stands before it
    have hbracket : ∀ front : Text, Text.trimEnd (front ++ ['['] ++ text)
        = front ++ ['['] ++ Text.trimEnd text := by
      intro front
      have hink : isWhiteSpace '[' = false := by decide
      simp only [Text.trimEnd, Text.dropWhileEnd_eq_rdropWhile, List.rdropWhile,
        List.reverse_append, List.dropWhile_append]
      split
      · next hblank => simp [hink, List.isEmpty_iff.mp hblank]
      · simp
    have hsplit : opened (link :: outer)
        = opened outer ++ link.before.reverse ++ ['['] ++ ['['] := by simp [opened]
    rw [hsplit]
    exact hbracket _

variable (resolve : Text → Traced ε Action)

/-! ## A step and a run -/

/-- Two opening brackets open a link. -/
theorem step_open (inside : Text) (links : List OpenLink) (rest : Text) :
    (ofScan inside links ('[' :: '[' :: rest)).step resolve
      = pure (some (ofScan [] (⟨inside, 0, false⟩ :: links) rest)) := by
  simp [ofScan, step, opened, framesOf]

/-- What becomes of a link is written where it was, and what was written before stays. -/
theorem step_close (inside : Text) {link : OpenLink} (h : link.brackets = 0)
    (outer : List OpenLink) (rest : Text) :
    (ofScan inside (link :: outer) (']' :: ']' :: rest)).step resolve = do
      let action ← resolve inside.reverse
      return some (ofScan (link.close inside action) outer rest) := by
  have hout : (ofScan inside (link :: outer) (']' :: ']' :: rest)).out
      = opened outer ++ link.before.reverse ++ '[' :: '[' :: inside.reverse := by
    simp [ofScan, opened]
  have hcontent := contentAt?_eq hout
  -- cutting the buffer at the opening pair and closing the innermost link are one edit
  have hwrite : ∀ action, (ofScan inside (link :: outer) (']' :: ']' :: rest)).write
      (opened outer ++ link.before.reverse).length action
        = opened outer ++ (link.close inside action).reverse := by
    intro action
    have hclose := reverse_close link inside.reverse action
    rw [List.reverse_reverse] at hclose
    rw [write_eq hout, hclose]
    cases action with
    | replace text => simp [Action.edit]
    | drop => exact trimEnd_opened outer _
    | keep => simp [Action.edit]
  simp only [step, ofScan, framesOf] at hcontent hwrite ⊢
  rw [if_pos h, hcontent]
  simp only [hwrite]

/-- Any other character is written where it stands. -/
theorem step_char {c : Char} {text : Text} (hopens : ¬ ['[', '['] <+: c :: text) (inside : Text)
    {links : List OpenLink}
    (hcloses : [']', ']'] <+: c :: text → ¬ ∃ link outer, links = link :: outer ∧ link.brackets = 0) :
    (ofScan inside links (c :: text)).step resolve
      = pure (some (ofScan (c :: inside) (seeInside c links) text)) := by
  have hpush : (ofScan inside links (c :: text)).push c text
      = ofScan (c :: inside) (seeInside c links) text := by
    simp [push, ofScan, framesOf_seeInside]
  rw [← hpush]
  -- closing brackets are written too, where they close nothing
  by_cases hpair : [']', ']'] <+: c :: text
  · have hclosable := hcloses hpair
    obtain ⟨rfl, rest, rfl⟩ := exists_of_pair_prefix hpair
    cases links with
    | nil => rfl
    | cons link outer =>
      have hbrackets : link.brackets ≠ 0 := fun hzero => hclosable ⟨link, outer, rfl, hzero⟩
      simp only [step, ofScan, framesOf]
      rw [if_neg hbrackets]
  · unfold step ofScan
    split
    · next heq => cases heq
    · next rest heq =>
      cases heq
      exact absurd (by simp) hopens
    · next rest heq =>
      cases heq
      exact absurd (by simp) hpair
    · next heq =>
      cases heq
      rfl

/-- A step in place leads from a place of a pass to the next one, and never fails. -/
theorem exists_step_ofScan (inside : Text) (links : List OpenLink) (text : Text) :
    ∃ inside' links' rest,
      ((ofScan inside links text).step resolve).value = some (ofScan inside' links' rest) := by
  cases text with
  | nil => exact ⟨inside, links, [], rfl⟩
  | cons c text =>
    by_cases hopens : ['[', '['] <+: c :: text
    · obtain ⟨rfl, rest, rfl⟩ := exists_of_pair_prefix hopens
      exact ⟨_, _, _, by rw [step_open]; rfl⟩
    · by_cases hcloses : [']', ']'] <+: c :: text ∧
          ∃ link outer, links = link :: outer ∧ link.brackets = 0
      · obtain ⟨hpair, link, outer, rfl, hbrackets⟩ := hcloses
        obtain ⟨rfl, rest, rfl⟩ := exists_of_pair_prefix hpair
        exact ⟨_, _, _, by rw [step_close resolve inside hbrackets]; rfl⟩
      · rw [not_and] at hcloses
        exact ⟨_, _, _, by rw [step_char resolve hopens inside hcloses]; rfl⟩

variable {resolve}

/-- Every buffer of a pass in place is the buffer at a place of a pass. -/
theorem Runs.exists_ofScan {buffer last : Buffer} {trace : List ε} (h : Runs resolve buffer trace last)
    (hbuffer : ∃ inside links rest, buffer = ofScan inside links rest) :
    ∃ inside links rest, last = ofScan inside links rest := by
  induction h with
  | refl => exact hbuffer
  | head hstep more ih =>
    obtain ⟨inside, links, rest, rfl⟩ := hbuffer
    obtain ⟨inside', links', rest', hnext⟩ := exists_step_ofScan resolve inside links rest
    rw [hnext] at hstep
    exact ih ⟨inside', links', rest', (Option.some.inj hstep).symm⟩

/-- A step that does what a pass does next may stand before the rest of the pass. -/
theorem Runs.cons {buffer next last : Buffer} {noted trace : List ε}
    (hstep : buffer.step resolve = ⟨some next, noted⟩) (more : Runs resolve next trace last) :
    Runs resolve buffer (noted ++ trace) last := by
  have hhead := Runs.head (congrArg Traced.value hstep) more
  rwa [hstep] at hhead

/-- From any place of a pass on, the steps in place end with what the pass computes. -/
theorem runs_resolveFrom (resolve : Text → Traced ε Action) (inside : Text) (links : List OpenLink)
    (text : Text) :
    ∃ frames, Runs resolve (ofScan inside links text) (resolveFrom resolve inside links text).trace
      ⟨(resolveFrom resolve inside links text).value, frames, []⟩ := by
  -- one step for each clause of the pass over the text that is not read yet
  induction inside, links, text using resolveFrom.induct with
  | case1 inside links =>
    refine ⟨framesOf links, ?_⟩
    rw [resolveFrom, restoreOpen_eq]
    exact Runs.refl _
  | case2 inside links rest ih =>
    obtain ⟨frames, hruns⟩ := ih
    refine ⟨frames, ?_⟩
    rw [resolveFrom]
    exact hruns.cons (step_open resolve inside links rest)
  | case3 inside rest link outer hclosed ih =>
    obtain ⟨frames, hruns⟩ := ih (resolve inside.reverse).value
    refine ⟨frames, ?_⟩
    rw [resolveFrom, if_pos hclosed, Traced.value_bind, Traced.trace_bind]
    refine hruns.cons ?_
    rw [step_close resolve inside hclosed]
    exact Traced.ext rfl (List.append_nil _)
  | case4 inside rest link outer hopen ih =>
    obtain ⟨frames, hruns⟩ := ih
    refine ⟨frames, ?_⟩
    have hcloses : ¬ ∃ link' outer', link :: outer = link' :: outer' ∧ link'.brackets = 0 := by
      rintro ⟨link', outer', heq, hzero⟩
      cases heq
      exact hopen hzero
    rw [resolveFrom, if_neg hopen]
    exact hruns.cons (step_char resolve (by simp) inside fun _ => hcloses)
  | case5 inside rest ih =>
    obtain ⟨frames, hruns⟩ := ih
    refine ⟨frames, ?_⟩
    rw [resolveFrom]
    exact hruns.cons (step_char resolve (by simp) inside fun _ => by simp)
  | case6 inside links c rest hpair hclose ih =>
    obtain ⟨frames, hruns⟩ := ih
    refine ⟨frames, ?_⟩
    have hopens : ¬ ['[', '['] <+: c :: rest := by
      intro h
      obtain ⟨rfl, others, rfl⟩ := exists_of_pair_prefix h
      exact hpair others rfl rfl
    have hcloses : ¬ [']', ']'] <+: c :: rest := by
      intro h
      obtain ⟨rfl, others, rfl⟩ := exists_of_pair_prefix h
      exact hclose others rfl rfl
    rw [resolveFrom_char resolve hopens inside fun h => absurd h hcloses]
    exact hruns.cons (step_char resolve hopens inside fun h => absurd h hcloses)

/-- At the start of every frame stand two opening brackets. -/
theorem Runs.prefix_of_mem_frames {text : Text} {trace : List ε} {buffer : Buffer}
    (h : Runs resolve (start text) trace buffer) {frame : Frame} (hframe : frame ∈ buffer.frames) :
    ['[', '['] <+: buffer.out.drop frame.start := by
  obtain ⟨inside, links, rest, rfl⟩ := h.exists_ofScan ⟨[], [], text, rfl⟩
  exact prefix_of_mem_framesOf hframe inside.reverse

/-- No step of a run fails. -/
theorem Runs.isSome_step {text : Text} {trace : List ε} {buffer : Buffer}
    (h : Runs resolve (start text) trace buffer) : (buffer.step resolve).value.isSome = true := by
  obtain ⟨inside, links, rest, rfl⟩ := h.exists_ofScan ⟨[], [], text, rfl⟩
  obtain ⟨inside', links', rest', hnext⟩ := exists_step_ofScan resolve inside links rest
  rw [hnext]
  rfl

end Buffer

/-! ## One pass over links -/

/-- **One pass over links resolves the outline of the text**, whatever becomes of links.

A text has one outline, which is an outline of all its characters in order. What the pass computes and
what it asks for is what `Outline.resolve` says: once for each link, inner links first.

The pass in place computes and asks for the same. Every place that it remembers is one of opening
brackets, so no step of it fails. If every link stays, the text does. -/
theorem resolveOnce_outline (resolve : Text → Traced ε Action) (events : Text → List ε)
    (text : Text) :
    (∃! outline, Outlined none text outline none) ∧
      (∀ outline, Outlined none text outline none →
        outline.text = text ∧ resolveOnce resolve text = outline.resolve resolve []) ∧
      (∃ frames, Buffer.Runs resolve (.start text) (resolveOnce resolve text).trace
        ⟨(resolveOnce resolve text).value, frames, []⟩) ∧
      (∀ trace buffer, Buffer.Runs resolve (.start text) trace buffer →
        (∀ frame ∈ buffer.frames, ['[', '['] <+: buffer.out.drop frame.start) ∧
          (buffer.step resolve).value.isSome = true) ∧
      (resolveOnce (fun content => ⟨.keep, events content⟩) text).value = text := by
  obtain ⟨outline, left, houtline⟩ := Outlined.exists_outlined none text
  obtain rfl := houtline.left_eq_none rfl
  have htext : outline.text = text := by
    simpa using houtline.text_eq.symm
  refine ⟨⟨outline, houtline, fun other hother => (hother.unique houtline).1⟩, ?_,
    Buffer.runs_resolveFrom resolve [] [] text,
    fun trace buffer hruns => ⟨fun frame hframe => hruns.prefix_of_mem_frames hframe,
      hruns.isSome_step⟩, ?_⟩
  · intro other hother
    obtain ⟨rfl, -⟩ := hother.unique houtline
    exact ⟨htext, houtline.resolveOnce_eq resolve⟩
  · rw [houtline.resolveOnce_eq, Outline.value_resolve_keep, htext]
    rfl

/-- A link before brackets that open another one and do not close it. -/
theorem resolveOnce_outline_unclosed :
    Outlined none "[[a]][[".toList (.link (.char 'a' .done) (.unclosed .done)) none ∧
      resolveOnce (fun content => (⟨.replace content, [content]⟩ : Traced Text Action))
          "[[a]][[".toList
        = Outline.resolve (fun content => ⟨.replace content, [content]⟩) []
          (.link (.char 'a' .done) (.unclosed .done)) := by
  have hcontent : Outlined (some []) "a]][[".toList (.char 'a' .done) (some "[[".toList) :=
    .char (by decide) (fun hpair => absurd hpair (by decide)) (.close _ ⟨['a'], rfl, by decide⟩)
  have houtline : Outlined none "[[a]][[".toList (.link (.char 'a' .done) (.unclosed .done)) none :=
    .link hcontent (.unclosed (.done _))
  exact ⟨houtline, ((resolveOnce_outline _ (fun _ => []) _).2.1 _ houtline).2⟩

end WikiText.Link
