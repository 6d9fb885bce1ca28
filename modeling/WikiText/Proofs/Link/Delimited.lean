import WikiText.Proofs.Link.InPlace
import WikiText.Proofs.Link.Label

/-!
# Where a link with a label ends

Single brackets in a label are counted, so that two closing brackets end the link only when all
brackets of the label are closed. If they are balanced, the link ends at the two brackets behind the
label, however many closing brackets the label itself ends with (`resolveOnce_delimited`).

The pass that keeps the texts before open links apart and the pass in place read the same, so both are
followed at once: `Advances` says of two places of a pass that from the one to the other nothing is
resolved, and what is read of a link before it ends is such a stretch.
-/

namespace WikiText.Link

variable {ε : Type} {resolve : Text → Traced ε Action}

/-- A text in which single square brackets are balanced. -/
inductive Nested : Text → Prop where
  /-- No brackets. -/
  | nil : Nested []
  /-- A character that is no bracket. -/
  | char {c : Char} {rest : Text} (hopen : c ≠ '[') (hclose : c ≠ ']') (more : Nested rest) :
    Nested (c :: rest)
  /-- Brackets around a balanced text. -/
  | brackets {inner rest : Text} (inside : Nested inner) (more : Nested rest) :
    Nested ('[' :: (inner ++ ']' :: rest))

/-! ## Places of a pass -/

/-- A place of a pass over links. -/
structure Place where
  /-- The text since the innermost open link, in reverse. -/
  inside : Text
  /-- The open links, innermost first. -/
  links : List OpenLink
  /-- What is to be read. -/
  rest : Text

/-- The buffer of the pass in place. -/
def Place.buffer (place : Place) : Buffer :=
  .ofScan place.inside place.links place.rest

/-- What a pass computes from a place on. -/
def Place.result (resolve : Text → Traced ε Action) (place : Place) : Traced ε Text :=
  resolveFrom resolve place.inside place.links place.rest

/-- A pass comes from one place to another, and resolves no link between them. -/
structure Advances (resolve : Text → Traced ε Action) (place next : Place) : Prop where
  /-- The pass computes the same from both. -/
  result : place.result resolve = next.result resolve
  /-- In place, the steps from the one lead to the other. -/
  runs : ∀ {trace : List ε} {last : Buffer},
    Buffer.Runs resolve next.buffer trace last → Buffer.Runs resolve place.buffer trace last

namespace Advances

theorem refl (place : Place) : Advances resolve place place :=
  ⟨rfl, id⟩

theorem trans {place next last : Place} (h : Advances resolve place next)
    (h' : Advances resolve next last) : Advances resolve place last :=
  ⟨h.result.trans h'.result, fun hruns => h.runs (h'.runs hruns)⟩

/-- The opening brackets of a link. -/
theorem opens (inside : Text) (links : List OpenLink) (rest : Text) :
    Advances resolve ⟨inside, links, '[' :: '[' :: rest⟩ ⟨[], ⟨inside, 0, false⟩ :: links, rest⟩ where
  result := by rw [Place.result, resolveFrom, Place.result]
  runs hruns := hruns.cons (Buffer.step_open resolve inside links rest)

/-- A character that opens no link and closes none. -/
theorem char {c : Char} {rest : Text} (hopens : ¬ ['[', '['] <+: c :: rest) (inside : Text)
    {links : List OpenLink}
    (hcloses : [']', ']'] <+: c :: rest → ¬ ∃ link outer, links = link :: outer ∧ link.brackets = 0) :
    Advances resolve ⟨inside, links, c :: rest⟩ ⟨c :: inside, seeInside c links, rest⟩ where
  result := resolveFrom_char resolve hopens inside hcloses
  runs hruns := hruns.cons (Buffer.step_char resolve hopens inside hcloses)

section

variable {link : OpenLink} (outer : List OpenLink)

/-- In an open link a character that is no bracket changes nothing else, if it begins no label or the
label has begun. -/
theorem plain {c : Char} (hopen : c ≠ '[') (hclose : c ≠ ']') (hbar : c = '|' → link.piped = true)
    (inside rest : Text) :
    Advances resolve ⟨inside, link :: outer, c :: rest⟩ ⟨c :: inside, link :: outer, rest⟩ := by
  have hsee : link.see c = link := by
    unfold OpenLink.see
    split
    · next hfirst =>
      have hpiped := hbar (of_decide_eq_true (Bool.and_eq_true_iff.mp hfirst).1)
      rw [← hpiped]
    · rw [if_neg (by simp [hopen])]
  have hchar : Advances resolve ⟨inside, link :: outer, c :: rest⟩
      ⟨c :: inside, seeInside c (link :: outer), rest⟩ :=
    .char (fun h => hopen (List.cons_prefix_cons.mp h).1.symm) inside
      fun h => absurd (List.cons_prefix_cons.mp h).1.symm hclose
  rwa [seeInside, hsee] at hchar

/-- A single bracket in a label, and no second one behind it. -/
theorem openBracket (hpiped : link.piped = true) {rest : Text} (hrest : rest.head? ≠ some '[')
    (inside : Text) :
    Advances resolve ⟨inside, link :: outer, '[' :: rest⟩
      ⟨'[' :: inside, { link with brackets := link.brackets + 1 } :: outer, rest⟩ := by
  have hsee : link.see '[' = { link with brackets := link.brackets + 1 } := by
    simp [OpenLink.see, hpiped]
  have hopens : ¬ ['[', '['] <+: '[' :: rest := by
    intro h
    obtain ⟨-, more, rfl⟩ := exists_of_pair_prefix h
    exact hrest rfl
  have hchar : Advances resolve ⟨inside, link :: outer, '[' :: rest⟩
      ⟨'[' :: inside, seeInside '[' (link :: outer), rest⟩ :=
    .char hopens inside fun h => absurd (List.cons_prefix_cons.mp h).1 (by decide)
  rwa [seeInside, hsee] at hchar

/-- A closing bracket while a single bracket is open, whatever stands behind it. -/
theorem closeBracket (inside rest : Text) :
    Advances resolve ⟨inside, { link with brackets := link.brackets + 1 } :: outer, ']' :: rest⟩
      ⟨']' :: inside, link :: outer, rest⟩ := by
  have hsee : ({ link with brackets := link.brackets + 1 } : OpenLink).see ']' = link := by
    simp [OpenLink.see]
  have hchar : Advances resolve
      ⟨inside, { link with brackets := link.brackets + 1 } :: outer, ']' :: rest⟩
      ⟨']' :: inside, seeInside ']' ({ link with brackets := link.brackets + 1 } :: outer), rest⟩ := by
    apply Advances.char
    · exact fun h => absurd (List.cons_prefix_cons.mp h).1 (by decide)
    · rintro - ⟨link', outer', heq, hzero⟩
      cases heq
      exact absurd hzero (Nat.succ_ne_zero _)
  rwa [seeInside, hsee] at hchar

/-- The target of a link. -/
theorem target {target : Text} (hopen : '[' ∉ target) (hclose : ']' ∉ target) (hbar : '|' ∉ target)
    (inside rest : Text) :
    Advances resolve ⟨inside, link :: outer, target ++ rest⟩
      ⟨target.reverse ++ inside, link :: outer, rest⟩ := by
  induction target generalizing inside with
  | nil => exact .refl _
  | cons c target ih =>
    obtain ⟨hopen, hopen'⟩ := List.ne_and_not_mem_of_not_mem_cons hopen
    obtain ⟨hclose, hclose'⟩ := List.ne_and_not_mem_of_not_mem_cons hclose
    obtain ⟨hbar, hbar'⟩ := List.ne_and_not_mem_of_not_mem_cons hbar
    rw [List.reverse_cons, List.append_assoc]
    exact (plain outer hopen.symm hclose.symm (fun h => absurd h.symm hbar) inside _).trans
      (ih hopen' hclose' hbar' (c :: inside))

/-- A label with balanced brackets: each closing bracket in it stands behind one that is open. -/
theorem label {label : Text} (hlabel : Nested label) (hpair : ¬ ['[', '['] <:+: label)
    (hpiped : link.piped = true) (inside rest : Text) :
    Advances resolve ⟨inside, link :: outer, label ++ rest⟩
      ⟨label.reverse ++ inside, link :: outer, rest⟩ := by
  induction hlabel generalizing inside link rest with
  | nil => exact .refl _
  | @char c label hopen hclose more ih =>
    have hmore : ¬ ['[', '['] <:+: label :=
      fun hin => hpair (hin.trans (List.suffix_cons c label).isInfix)
    rw [List.reverse_cons, List.append_assoc]
    exact (plain outer hopen hclose (fun _ => hpiped) inside _).trans
      (ih hmore hpiped (c :: inside) rest)
  | @brackets inner label nested more ihinner ihmore =>
    have hinner : ¬ ['[', '['] <:+: inner :=
      fun hin => hpair (hin.trans ⟨['['], ']' :: label, by simp⟩)
    have hmore : ¬ ['[', '['] <:+: label :=
      fun hin => hpair (hin.trans ⟨'[' :: (inner ++ [']']), [], by simp⟩)
    have hhead : (inner ++ ']' :: (label ++ rest)).head? ≠ some '[' := by
      intro hhead
      refine hpair (Text.pair_infix_cons_iff.mpr (.inl ⟨rfl, ?_⟩))
      cases inner with
      | nil => exact hhead
      | cons c inner => exact hhead
    -- while the inner text is read, one more bracket is open
    have hpiped' : ({ link with brackets := link.brackets + 1 } : OpenLink).piped = true := hpiped
    have hreverse : ('[' :: (inner ++ ']' :: label)).reverse ++ inside
        = label.reverse ++ ']' :: (inner.reverse ++ '[' :: inside) := by simp
    rw [hreverse, List.cons_append, List.append_assoc, List.cons_append]
    exact (openBracket outer hpiped hhead inside).trans
      ((ihinner hinner hpiped' _ _).trans ((closeBracket outer _ _).trans (ihmore hmore hpiped _ _)))

end

end Advances

/-! ## The end of the link -/

/-- The place at the end of a link that nothing stands before. -/
def Place.closing (content rest : Text) : Place :=
  ⟨content.reverse, [⟨[], 0, true⟩], ']' :: ']' :: rest⟩

/-- What becomes of a link that nothing stands before. -/
theorem close_closing (content : Text) (action : Action) :
    OpenLink.close ⟨[], 0, true⟩ content.reverse action = (action.edit [] content).reverse := by
  have hclose := reverse_close ⟨[], 0, true⟩ content action
  rw [← List.reverse_reverse (OpenLink.close _ _ _), hclose]
  rfl

/-- The link is resolved on its content, and the pass goes on behind what becomes of it. -/
theorem result_closing (resolve : Text → Traced ε Action) (content rest : Text) :
    (Place.closing content rest).result resolve
      = resolve content >>= fun action =>
        resolveFrom resolve (action.edit [] content).reverse [] rest := by
  rw [Place.closing, Place.result, resolveFrom, if_pos rfl, List.reverse_reverse]
  simp only [close_closing]

/-- The closing brackets of a link end it, and its content is edited as its resolve says. -/
theorem runs_closing (resolve : Text → Traced ε Action) (content rest : Text) :
    Buffer.Runs resolve (Place.closing content rest).buffer (resolve content).trace
      ⟨(resolve content).value.edit [] content, [], rest⟩ := by
  have hstep : (Place.closing content rest).buffer.step resolve
      = ⟨some ⟨(resolve content).value.edit [] content, [], rest⟩, (resolve content).trace⟩ := by
    rw [Place.closing, Place.buffer, Buffer.step_close resolve _ rfl, List.reverse_reverse]
    refine Traced.ext ?_ (List.append_nil _)
    simp only [close_closing]
    simp [Buffer.ofScan, opened, Buffer.framesOf]
  have hruns := Buffer.Runs.cons hstep (.refl _)
  rwa [List.append_nil] at hruns

/-- **Where a link with a label ends.** If single brackets are balanced in the label and none of them
stand side by side to open a link, then the link is resolved on its target and its whole label. The
pass goes on behind it with no link open, and what it has written is what becomes of the link.

The pass in place comes to the same place, and notes nothing but what it notes for this link. -/
theorem resolveOnce_delimited (resolve : Text → Traced ε Action) {target label : Text}
    (hopen : '[' ∉ target) (hclose : ']' ∉ target) (htarget : '|' ∉ target) (hlabel : Nested label)
    (hpair : Text.occursIn ['[', '['] label = false) (rest : Text) :
    (resolveOnce resolve (labelled target label ++ rest)
      = resolve (target ++ '|' :: label) >>= fun action =>
        resolveFrom resolve (action.edit [] (target ++ '|' :: label)).reverse [] rest) ∧
    Buffer.Runs resolve (.start (labelled target label ++ rest))
      (resolve (target ++ '|' :: label)).trace
      ⟨(resolve (target ++ '|' :: label)).value.edit [] (target ++ '|' :: label), [], rest⟩ := by
  have hpair := Text.occursIn_eq_false_iff.mp hpair
  have htext : labelled target label ++ rest
      = '[' :: '[' :: (target ++ '|' :: (label ++ ']' :: ']' :: rest)) := by simp [labelled]
  have hreverse : (target ++ '|' :: label).reverse
      = label.reverse ++ '|' :: (target.reverse ++ []) := by simp
  have hbar : Advances resolve
      ⟨target.reverse ++ [], [⟨[], 0, false⟩], '|' :: (label ++ ']' :: ']' :: rest)⟩
      ⟨'|' :: (target.reverse ++ []), [⟨[], 0, true⟩], label ++ ']' :: ']' :: rest⟩ :=
    .char (fun h => absurd (List.cons_prefix_cons.mp h).1 (by decide)) _
      fun h => absurd (List.cons_prefix_cons.mp h).1 (by decide)
  have hadvances : Advances resolve ⟨[], [], labelled target label ++ rest⟩
      (.closing (target ++ '|' :: label) rest) := by
    rw [htext, Place.closing, hreverse]
    exact (Advances.opens [] [] _).trans ((Advances.target [] hopen hclose htarget [] _).trans
      (hbar.trans (Advances.label [] hlabel hpair rfl _ _)))
  exact ⟨hadvances.result.trans (result_closing resolve _ rest),
    hadvances.runs (runs_closing resolve _ rest)⟩

/-- A label that ends with brackets of its own, in front of one more. -/
theorem resolveOnce_delimited_brackets :
    Nested "[b[c]]".toList ∧ Text.occursIn ['[', '['] "[b[c]]".toList = false ∧
      resolveOnce (fun content => (⟨.replace content, [content]⟩ : Traced Text Action))
          "[[a|[b[c]]]]]".toList
        = ⟨"a|[b[c]]]".toList, ["a|[b[c]]".toList]⟩ := by
  have hlabel : Nested "[b[c]]".toList :=
    .brackets (.char (by decide) (by decide) (.brackets (.char (by decide) (by decide) .nil) .nil))
      .nil
  have hpair : Text.occursIn ['[', '['] "[b[c]]".toList = false := by decide
  exact ⟨hlabel, hpair, (resolveOnce_delimited _ (by decide : '[' ∉ "a".toList) (by decide)
    (by decide) hlabel hpair "]".toList).1⟩

end WikiText.Link
