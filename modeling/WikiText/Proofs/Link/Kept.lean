import WikiText.Proofs.Link.Outline

/-!
# Links that stay

A pass over the links of a text asks for each closed link what becomes of it, inner links first. If
all of them stay, what is asked about does not depend on the answers: the contents are those of the
links as they are written (`contents`), and the pass gives the text back (`resolveOnce_kept`). Text
without brackets around others is in no link, so that the contents stay the same
(`contents_between`).
-/

namespace WikiText.Link

variable {ε : Type}

/-- A pass that keeps every link and notes its content. -/
def noteContent (content : Text) : Traced Text Action :=
  ⟨.keep, [content]⟩

/-- The contents of the closed links of a text, as they are written. -/
def contents (text : Text) : List Text :=
  (resolveOnce noteContent text).trace

/-- No closed link of a text has a known form. -/
def AllUnknown (namespaces : Namespaces) (text : Text) : Prop :=
  ∀ content ∈ contents text, read namespaces content = .unknown

instance (namespaces : Namespaces) (text : Text) : Decidable (AllUnknown namespaces text) :=
  inferInstanceAs (Decidable (∀ content ∈ contents text, read namespaces content = .unknown))

/-- From any place of the scan on, a pass that keeps the links leaves the text as it is written. -/
theorem resolveFrom_kept (resolve : Text → Traced ε Action) (inside : Text) (links : List OpenLink)
    (rest : Text)
    (hkeep : ∀ content ∈ (resolveFrom noteContent inside links rest).trace,
      resolve content = pure .keep) :
    resolveFrom resolve inside links rest = pure (opened links ++ inside.reverse ++ rest) := by
  induction inside, links, rest using resolveFrom.induct with
  | case1 inside links =>
    rw [resolveFrom, restoreOpen_eq, List.append_nil]
  | case2 inside links rest ih =>
    rw [resolveFrom] at hkeep
    rw [resolveFrom, ih hkeep]
    simp [opened]
  | case3 inside rest link outer hclosed ih =>
    rw [resolveFrom, if_pos hclosed] at hkeep
    -- the brackets are written back, and the link is part of the text around it
    have hthis : resolve inside.reverse = pure .keep := hkeep _ (by simp [noteContent])
    have ih := ih .keep fun content hcontent => hkeep content (by simp [noteContent, hcontent])
    rw [resolveFrom, if_pos hclosed, hthis]
    show resolveFrom resolve (link.close inside .keep) outer rest = _
    rw [ih]
    simp [opened, OpenLink.close]
  | case4 inside rest link outer hopen ih =>
    rw [resolveFrom, if_neg hopen] at hkeep
    rw [resolveFrom, if_neg hopen, ih hkeep]
    simp [opened]
  | case5 inside rest ih =>
    rw [resolveFrom] at hkeep
    rw [resolveFrom, ih hkeep]
    simp [opened]
  | case6 inside links c rest hpair hclose ih =>
    have hstep : ∀ {ζ : Type} (resolve : Text → Traced ζ Action),
        resolveFrom resolve inside links (c :: rest)
          = resolveFrom resolve (c :: inside) (seeInside c links) rest := by
      intro ζ resolve
      rw [resolveFrom]
      · exact hpair
      · exact hclose
    rw [hstep] at hkeep
    rw [hstep, ih hkeep]
    simp

/-- A pass that keeps every link keeps the text. -/
theorem resolveOnce_kept {resolve : Text → Traced ε Action} {text : Text}
    (hkeep : ∀ content ∈ contents text, resolve content = pure .keep) :
    resolveOnce resolve text = pure text :=
  resolveFrom_kept resolve [] [] text hkeep

/-- A text whose links all stay is given back after the first pass. -/
theorem resolveAll_kept {resolve : Text → Traced ε Action} {text : Text} (changed : ℕ → ε)
    (hkeep : ∀ content ∈ contents text, resolve content = pure .keep) :
    resolveAll resolve changed text = pure text := by
  rw [resolveAll, resolvePasses, resolveOnce_kept hkeep]
  show (if text = text then pure text else _) = _
  rw [if_pos rfl]

/-- Links without a known form stay, however labels are cleaned. -/
theorem AllUnknown.classify_eq {namespaces : Namespaces} {text : Text}
    (h : AllUnknown namespaces text) (clean : Text → Traced ε Text) :
    ∀ content ∈ contents text, classify namespaces clean content = pure .keep := by
  intro content hcontent
  rw [classify, h content hcontent]
  rfl

/-- The contents of the links of an outline, inner ones first, as they are written. -/
def Outline.contents : Outline → List Text
  | done => []
  | char _ rest => rest.contents
  | link content rest => content.contents ++ content.text :: rest.contents
  | unclosed content => content.contents

/-- The contents that a pass notes if all links stay are those of the outline. -/
theorem Outline.trace_resolve_noteContent (outline : Outline) (before : Text) :
    (outline.resolve noteContent before).trace = outline.contents := by
  induction outline generalizing before with
  | done => rfl
  | char c rest ih => exact ih _
  | link content rest ihcontent ihrest =>
    have hinner : (content.resolve noteContent []).value = content.text :=
      content.value_resolve_keep (fun content => [content]) []
    simp [Outline.resolve, Outline.contents, noteContent, ihcontent, ihrest, hinner]
  | unclosed content ih =>
    rw [Outline.resolve, Traced.trace_bind, Traced.trace_pure, List.append_nil]
    exact ih []

/-! ## Text around links

The scan keeps a text before all links at the very end of what it keeps: in the text since the
innermost open link if no link is open, and else before the outermost one. -/

/-- The place of a scan, with a text that was read before it. Texts are in reverse. -/
def under (base inside : Text) : List OpenLink → Text × List OpenLink
  | [] => (inside ++ base, [])
  | link :: outer =>
    (inside, { link with before := (under base link.before outer).1 }
      :: (under base link.before outer).2)

/-- What is written in the innermost link has nothing to do with the text before the scan. -/
theorem under_append (base more inside : Text) (links : List OpenLink) :
    under base (more ++ inside) links
      = (more ++ (under base inside links).1, (under base inside links).2) := by
  cases links with
  | nil => simp [under]
  | cons link outer => rfl

/-- Seeing a character does not look at the text before the link. -/
theorem see_before (link : OpenLink) (before : Text) (c : Char) :
    ({ link with before := before } : OpenLink).see c = { link.see c with before := before } := by
  unfold OpenLink.see
  split
  · rfl
  · split
    · rfl
    · split <;> rfl

/-- A character that is seen is added at the innermost place. -/
theorem under_seeInside (base inside : Text) (c : Char) (links : List OpenLink) :
    under base (c :: inside) (seeInside c links)
      = (c :: (under base inside links).1, seeInside c (under base inside links).2) := by
  cases links with
  | nil => rfl
  | cons link outer => simp [seeInside, under, see_before]

/-- A text before the links is in none of them. -/
theorem trace_resolveFrom_under (base inside : Text) (links : List OpenLink) (rest : Text) :
    (resolveFrom noteContent (under base inside links).1 (under base inside links).2 rest).trace
      = (resolveFrom noteContent inside links rest).trace := by
  induction inside, links, rest using resolveFrom.induct with
  | case1 inside links =>
    rw [resolveFrom, resolveFrom]
    rfl
  | case2 inside links rest ih =>
    rw [resolveFrom, resolveFrom]
    exact ih
  | case3 inside rest link outer hclosed ih =>
    -- a kept link joins the text before it, over the same base
    have hbase : under base (link.close inside .keep) outer
        = (({ link with before := (under base link.before outer).1 } : OpenLink).close inside .keep,
          (under base link.before outer).2) := by
      have happend := under_append base (']' :: ']' :: (inside ++ ['[', '['])) link.before outer
      simpa [OpenLink.close] using happend
    have ih := ih .keep
    rw [hbase] at ih
    rw [under, resolveFrom, if_pos hclosed, resolveFrom, if_pos hclosed]
    exact congrArg (inside.reverse :: ·) ih
  | case4 inside rest link outer hopen ih =>
    have hbase := under_seeInside base inside ']' (link :: outer)
    rw [seeInside] at hbase
    rw [hbase] at ih
    rw [under, resolveFrom, if_neg hopen, resolveFrom, if_neg hopen]
    exact ih
  | case5 inside rest ih =>
    rw [under, resolveFrom, resolveFrom]
    exact ih
  | case6 inside links c rest hpair hclose ih =>
    have hstep : ∀ inside links, resolveFrom noteContent inside links (c :: rest)
        = resolveFrom noteContent (c :: inside) (seeInside c links) rest := by
      intro inside links
      rw [resolveFrom]
      · exact hpair
      · exact hclose
    rw [under_seeInside] at ih
    rw [hstep, hstep]
    exact ih

/-- A character that is no bracket is read by itself. -/
theorem resolveFrom_cons (resolve : Text → Traced ε Action) {c : Char} (hopen : c ≠ '[')
    (hclose : c ≠ ']') (inside : Text) (links : List OpenLink) (rest : Text) :
    resolveFrom resolve inside links (c :: rest)
      = resolveFrom resolve (c :: inside) (seeInside c links) rest := by
  rw [resolveFrom]
  · rintro others rfl
    exact absurd rfl hopen
  · rintro others rfl
    exact absurd rfl hclose

/-- A text without brackets after the links is in none of them. -/
theorem trace_resolveFrom_append {after : Text} (hopen : '[' ∉ after) (hclose : ']' ∉ after)
    (inside : Text) (links : List OpenLink) (rest : Text) :
    (resolveFrom noteContent inside links (rest ++ after)).trace
      = (resolveFrom noteContent inside links rest).trace := by
  induction inside, links, rest using resolveFrom.induct with
  | case1 inside links =>
    rw [List.nil_append]
    induction after generalizing inside links with
    | nil => rfl
    | cons c after ih =>
      obtain ⟨hopen, hrest⟩ := List.ne_and_not_mem_of_not_mem_cons hopen
      obtain ⟨hclose, hrest'⟩ := List.ne_and_not_mem_of_not_mem_cons hclose
      rw [resolveFrom_cons _ hopen.symm hclose.symm, ih hrest hrest', resolveFrom, resolveFrom]
      rfl
  | case2 inside links rest ih =>
    rw [List.cons_append, List.cons_append, resolveFrom, resolveFrom]
    exact ih
  | case3 inside rest link outer hclosed ih =>
    rw [List.cons_append, List.cons_append, resolveFrom, if_pos hclosed, resolveFrom, if_pos hclosed]
    exact congrArg (inside.reverse :: ·) (ih .keep)
  | case4 inside rest link outer hbrackets ih =>
    rw [List.cons_append, List.cons_append, resolveFrom, if_neg hbrackets, resolveFrom,
      if_neg hbrackets]
    exact ih
  | case5 inside rest ih =>
    rw [List.cons_append, List.cons_append, resolveFrom, resolveFrom]
    exact ih
  | case6 inside links c rest hpair hclosing ih =>
    -- a bracket at the end of the text is not completed by what comes after
    have hnext : ∀ d others, d ∉ after → rest ++ after = d :: others → ∃ kept, rest = d :: kept := by
      intro d others hd heq
      cases rest with
      | nil =>
        rw [show after = d :: others from heq] at hd
        exact absurd List.mem_cons_self hd
      | cons e kept => exact ⟨kept, by rw [(List.cons.inj heq).1]⟩
    have hstep : resolveFrom noteContent inside links (c :: (rest ++ after))
        = resolveFrom noteContent (c :: inside) (seeInside c links) (rest ++ after) := by
      rw [resolveFrom]
      · rintro others rfl heq
        obtain ⟨kept, hkept⟩ := hnext '[' others hopen heq
        exact hpair kept rfl hkept
      · rintro others rfl heq
        obtain ⟨kept, hkept⟩ := hnext ']' others hclose heq
        exact hclosing kept rfl hkept
    have hstep' : resolveFrom noteContent inside links (c :: rest)
        = resolveFrom noteContent (c :: inside) (seeInside c links) rest := by
      rw [resolveFrom]
      · exact hpair
      · exact hclosing
    rw [List.cons_append, hstep, hstep']
    exact ih

/-- Characters other than brackets are written where they stand. -/
theorem resolveFrom_append_of_notMem (resolve : Text → Traced ε Action) {front : Text}
    (hopen : '[' ∉ front) (hclose : ']' ∉ front) (inside rest : Text) :
    resolveFrom resolve inside [] (front ++ rest)
      = resolveFrom resolve (front.reverse ++ inside) [] rest := by
  induction front generalizing inside with
  | nil => rfl
  | cons c front ih =>
    obtain ⟨hopen, hrest⟩ := List.ne_and_not_mem_of_not_mem_cons hopen
    obtain ⟨hclose, hrest'⟩ := List.ne_and_not_mem_of_not_mem_cons hclose
    rw [List.cons_append, resolveFrom_cons _ hopen.symm hclose.symm, seeInside, ih hrest hrest',
      List.reverse_cons, List.append_assoc]
    rfl

/-- Text without brackets around a text adds no link and completes none. -/
theorem contents_between {before after : Text} (hopen : '[' ∉ before) (hclose : ']' ∉ before)
    (hopen' : '[' ∉ after) (hclose' : ']' ∉ after) (text : Text) :
    contents (before ++ text ++ after) = contents text := by
  rw [contents, resolveOnce, trace_resolveFrom_append hopen' hclose',
    resolveFrom_append_of_notMem _ hopen hclose, List.append_nil]
  exact trace_resolveFrom_under before.reverse [] [] text

end WikiText.Link
