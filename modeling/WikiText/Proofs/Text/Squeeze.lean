import WikiText.Proofs.Text.Trim

/-!
# Runs written as one space

To squeeze a text is to write each longest run of certain characters as one space. This is done to the
parts of a text by themselves, unless a run goes on from one part into the next (`squeeze_append`).

Texts are squeezed to the same text if and only if they differ in the amount of white space in each run
(`respaced_iff`).
-/

namespace WikiText.Text

open Unicode (isWhiteSpace)

section

variable {p : Char → Bool} {text rest : Text} {c : Char}

/-- A character in front that fails the test is kept. -/
theorem squeeze_cons_of_neg (h : p c = false) (rest : Text) :
    squeeze p (c :: rest) = c :: squeeze p rest := by
  rw [squeeze, if_neg (by simp [h])]

/-- Texts are squeezed each by itself, unless the second begins within a run. -/
theorem squeeze_append (h : rest.head?.any p = false) :
    squeeze p (text ++ rest) = squeeze p text ++ squeeze p rest := by
  induction text with
  | nil => rfl
  | cons d text ih =>
    have hhead : (text ++ rest).head?.any p = text.head?.any p := by
      cases text with
      | nil => simpa using h
      | cons e text => rfl
    rw [List.cons_append, squeeze, squeeze, hhead, ih]
    by_cases hd : p d = true
    · rw [if_pos hd, if_pos hd]
      split <;> rfl
    · rw [if_neg hd, if_neg hd]
      rfl

/-- A character that fails the test separates what is squeezed. -/
theorem squeeze_append_cons (h : p c = false) (text rest : Text) :
    squeeze p (text ++ c :: rest) = squeeze p text ++ c :: squeeze p rest := by
  rw [squeeze_append (by simp [h]), squeeze_cons_of_neg h]

/-- A text without runs is kept. -/
theorem squeeze_of_forall_neg (h : ∀ c ∈ text, p c = false) : squeeze p text = text := by
  induction text with
  | nil => rfl
  | cons c text ih =>
    rw [squeeze_cons_of_neg (h c List.mem_cons_self),
      ih fun d hd => h d (List.mem_cons_of_mem c hd)]

/-- The characters of a squeezed text are spaces and those that fail the test. -/
theorem mem_squeeze (h : c ∈ squeeze p text) : c = ' ' ∨ c ∈ text ∧ p c = false := by
  induction text with
  | nil => cases h
  | cons d text ih =>
    have hlater : c ∈ squeeze p text → c = ' ' ∨ c ∈ d :: text ∧ p c = false := by
      intro hmem
      rcases ih hmem with hspace | ⟨hmem, hc⟩
      · exact .inl hspace
      · exact .inr ⟨List.mem_cons_of_mem d hmem, hc⟩
    by_cases hd : p d = true
    · rw [squeeze, if_pos hd] at h
      split at h
      · exact hlater h
      · rcases List.mem_cons.mp h with rfl | h
        · exact .inl rfl
        · exact hlater h
    · rw [squeeze_cons_of_neg (eq_false_of_ne_true hd)] at h
      rcases List.mem_cons.mp h with rfl | h
      · exact .inr ⟨List.mem_cons_self, eq_false_of_ne_true hd⟩
      · exact hlater h

/-- A text of which nothing is left that could be squeezed was squeezed before. -/
theorem squeeze_eq_self (hspace : p ' ' = true) (h : ∀ c ∈ squeeze p text, p c = false) :
    squeeze p text = text := by
  -- a squeezed blank would stand in the result, so there was none
  apply squeeze_of_forall_neg
  induction text with
  | nil => exact fun c hc => (List.not_mem_nil hc).elim
  | cons d text ih =>
    by_cases hd : p d = true
    · rw [squeeze, if_pos hd] at h
      split at h
      · next hnext =>
        obtain ⟨e, he, hblank⟩ := (Option.any_eq_true _ _).mp hnext
        rw [ih h e (List.mem_of_mem_head? he)] at hblank
        cases hblank
      · rw [h ' ' List.mem_cons_self] at hspace
        cases hspace
    · rw [squeeze_cons_of_neg (eq_false_of_ne_true hd)] at h
      intro c hc
      rcases List.mem_cons.mp hc with rfl | hc
      · exact eq_false_of_ne_true hd
      · exact ih (fun e he => h e (List.mem_cons_of_mem d he)) c hc

/-- A run at the beginning stays one. -/
theorem any_head?_squeeze (hspace : p ' ' = true) (text : Text) :
    (squeeze p text).head?.any p = text.head?.any p := by
  induction text with
  | nil => rfl
  | cons c text ih =>
    by_cases hc : p c = true
    · rw [squeeze, if_pos hc]
      split
      · next hnext => rw [ih, hnext]; exact hc.symm
      · simp [hspace, hc]
    · rw [squeeze_cons_of_neg (eq_false_of_ne_true hc)]
      rfl

/-- What is not squeezed at the beginning of a squeezed text begins the text. -/
theorem exists_of_squeeze_eq_append {front back : Text} (hspace : p ' ' = true)
    (hfront : ∀ c ∈ front, p c = false) (h : squeeze p text = front ++ back) :
    ∃ rest, text = front ++ rest ∧ squeeze p rest = back := by
  induction front generalizing text with
  | nil => exact ⟨text, rfl, h⟩
  | cons c front ih =>
    have hhead := any_head?_squeeze hspace text
    rw [h] at hhead
    cases text with
    | nil => cases h
    | cons d text =>
      have hd : p d = false := hhead.symm.trans (hfront c List.mem_cons_self)
      rw [squeeze_cons_of_neg hd] at h
      obtain ⟨rfl, hlater⟩ := List.cons.inj h
      obtain ⟨rest, rfl, hrest⟩ := ih (fun e he => hfront e (List.mem_cons_of_mem _ he)) hlater
      exact ⟨rest, rfl, hrest⟩

end

/-! ## What is not white space -/

/-- A text without its white space. -/
def ink (text : Text) : Text :=
  text.filter (!isWhiteSpace ·)

theorem ink_append (text rest : Text) : ink (text ++ rest) = ink text ++ ink rest :=
  List.filter_append ..

/-- A character in front gives its ink first. -/
theorem ink_cons (c : Char) (text : Text) : ink (c :: text) = ink [c] ++ ink text :=
  ink_append [c] text

/-- A character in front that is no white space is ink. -/
theorem ink_cons_of_neg {c : Char} (h : isWhiteSpace c = false) (rest : Text) :
    ink (c :: rest) = c :: ink rest :=
  List.filter_cons_of_pos (by simp [h])

/-- Ink is what is no white space. -/
theorem mem_ink {c : Char} {text : Text} : c ∈ ink text ↔ c ∈ text ∧ isWhiteSpace c = false := by
  simp [ink]

/-- The texts without ink are the blank ones. -/
theorem ink_eq_nil_iff {text : Text} : ink text = [] ↔ Blank text := by
  simp [ink, Blank]

/-- Squeezing white space keeps the ink. -/
theorem ink_squeeze (text : Text) : ink (squeeze isWhiteSpace text) = ink text := by
  induction text with
  | nil => rfl
  | cons c text ih =>
    by_cases hc : isWhiteSpace c = true
    · have hlater : ink (c :: text) = ink text := List.filter_cons_of_neg (by simp [hc])
      rw [squeeze, if_pos hc, hlater]
      split
      · exact ih
      · exact (List.filter_cons_of_neg (by decide)).trans ih
    · have hc := eq_false_of_ne_true hc
      rw [squeeze_cons_of_neg hc, ink_cons_of_neg hc, ink_cons_of_neg hc, ih]

/-- A character that is no white space is in a text if it is there after squeezing. -/
theorem mem_squeeze_iff {c : Char} (hc : isWhiteSpace c = false) {text : Text} :
    c ∈ squeeze isWhiteSpace text ↔ c ∈ text := by
  have hink : ∀ text, c ∈ text ↔ c ∈ ink text := fun text => by rw [mem_ink, and_iff_left hc]
  rw [hink (squeeze isWhiteSpace text), ink_squeeze, ← hink]

/-- A text is its beginning up to the white space at its end, and this white space. -/
theorem exists_eq_trimEnd (text : Text) : ∃ right, Blank right ∧ text = trimEnd text ++ right := by
  refine ⟨text.rtakeWhile isWhiteSpace, fun _ => List.mem_rtakeWhile_imp, ?_⟩
  rw [trimEnd, dropWhileEnd_eq_rdropWhile, List.rdropWhile_append_rtakeWhile]

/-- Trimming at the end keeps the ink. -/
theorem ink_trimEnd (text : Text) : ink (trimEnd text) = ink text := by
  obtain ⟨right, hright, heq⟩ := exists_eq_trimEnd text
  conv_rhs => rw [heq, ink_append, ink_eq_nil_iff.mpr hright, List.append_nil]

/-! ## White space of other lengths -/

/-- A text and the same text with other white space wherever it has some. -/
inductive Respaced : Text → Text → Prop
  | nil : Respaced [] []
  | ink {c : Char} {text other : Text} (hc : isWhiteSpace c = false) (rest : Respaced text other) :
    Respaced (c :: text) (c :: other)
  | gap {gap gap' text other : Text} (hne : gap ≠ []) (hne' : gap' ≠ []) (hgap : Blank gap)
    (hgap' : Blank gap') (rest : Respaced text other) : Respaced (gap ++ text) (gap' ++ other)

/-- White space is squeezed with what follows it if that is white space, else to one space. -/
theorem squeeze_blank_append {gap : Text} (hne : gap ≠ []) (hgap : Blank gap) (text : Text) :
    squeeze isWhiteSpace (gap ++ text)
      = if text.head?.any isWhiteSpace then squeeze isWhiteSpace text
        else ' ' :: squeeze isWhiteSpace text := by
  induction gap with
  | nil => exact absurd rfl hne
  | cons b gap ih =>
    rw [List.cons_append, squeeze, if_pos (hgap b List.mem_cons_self)]
    cases gap with
    | nil => rfl
    | cons b' gap =>
      have hgap : Blank (b' :: gap) := fun c hc => hgap c (List.mem_cons_of_mem b hc)
      have hhead : (b' :: gap ++ text).head?.any isWhiteSpace = true := hgap b' List.mem_cons_self
      rw [hhead, if_pos rfl, ih (List.cons_ne_nil _ _) hgap]

/-- Texts that differ in their runs of white space are squeezed to the same. -/
theorem Respaced.squeeze_eq {text other : Text} (h : Respaced text other) :
    squeeze isWhiteSpace text = squeeze isWhiteSpace other := by
  induction h with
  | nil => rfl
  | ink hc _ ih => rw [squeeze_cons_of_neg hc, squeeze_cons_of_neg hc, ih]
  | @gap gap gap' text other hne hne' hgap hgap' _ ih =>
    have hhead : text.head?.any isWhiteSpace = other.head?.any isWhiteSpace := by
      rw [← any_head?_squeeze (by decide) text, ih, any_head?_squeeze (by decide)]
    rw [squeeze_blank_append hne hgap, squeeze_blank_append hne' hgap', hhead, ih]

/-- A run of white space at the beginning becomes one space. -/
theorem exists_gap {text : Text} (h : text.head?.any isWhiteSpace = true) :
    ∃ gap rest, gap ≠ [] ∧ Blank gap ∧ text = gap ++ rest ∧
      squeeze isWhiteSpace text = ' ' :: squeeze isWhiteSpace rest := by
  have hne : text.takeWhile isWhiteSpace ≠ [] := by
    cases text with
    | nil => cases h
    | cons b text =>
      rw [List.takeWhile_cons_of_pos (show isWhiteSpace b = true from h)]
      exact List.cons_ne_nil _ _
  have hgap : Blank (text.takeWhile isWhiteSpace) := fun _ hc => List.mem_takeWhile_imp hc
  have hstop : ¬ (text.dropWhile isWhiteSpace).head?.any isWhiteSpace = true := by
    have hhead := List.head?_dropWhile_not isWhiteSpace text
    cases hrest : (text.dropWhile isWhiteSpace).head? with
    | none => exact Bool.false_ne_true
    | some c =>
      rw [hrest] at hhead
      exact ne_true_of_eq_false hhead
  have hsqueeze := squeeze_blank_append hne hgap (text.dropWhile isWhiteSpace)
  rw [List.takeWhile_append_dropWhile, if_neg hstop] at hsqueeze
  exact ⟨_, _, hne, hgap, List.takeWhile_append_dropWhile.symm, hsqueeze⟩

/-- Texts that are squeezed to the same differ in their runs of white space. -/
theorem respaced_of_squeeze_eq {text other : Text}
    (h : squeeze isWhiteSpace text = squeeze isWhiteSpace other) : Respaced text other := by
  induction hlength : text.length using Nat.strong_induction_on generalizing text other with
  | _ length ih =>
    have hhead : text.head?.any isWhiteSpace = other.head?.any isWhiteSpace := by
      rw [← any_head?_squeeze (by decide) text, h, any_head?_squeeze (by decide)]
    by_cases hblank : text.head?.any isWhiteSpace = true
    -- both texts begin with a run, and the rests are squeezed to the same
    · obtain ⟨gap, rest, hne, hgap, rfl, hsqueeze⟩ := exists_gap hblank
      obtain ⟨gap', rest', hne', hgap', rfl, hsqueeze'⟩ := exists_gap (hhead.symm.trans hblank)
      have hrest := (List.cons_eq_cons.mp (hsqueeze.symm.trans (h.trans hsqueeze'))).2
      have hlt : rest.length < length := by
        have hpositive := List.length_pos_iff.mpr hne
        rw [List.length_append] at hlength
        omega
      exact .gap hne hne' hgap hgap' (ih rest.length hlt hrest rfl)
    · have htext := eq_false_of_ne_true hblank
      have hother := hhead.symm.trans htext
      cases text with
      | nil =>
        cases other with
        | nil => exact .nil
        | cons d other =>
          rw [squeeze_cons_of_neg hother] at h
          cases h
      | cons c text =>
        cases other with
        | nil =>
          rw [squeeze_cons_of_neg htext] at h
          cases h
        | cons d other =>
          rw [squeeze_cons_of_neg htext, squeeze_cons_of_neg hother] at h
          obtain ⟨rfl, hlater⟩ := List.cons_eq_cons.mp h
          rw [List.length_cons] at hlength
          exact .ink htext (ih text.length (by omega) hlater rfl)

/-- **Texts differ in the amount of white space only if they are squeezed to the same text.** -/
theorem respaced_iff {text other : Text} :
    Respaced text other ↔ squeeze isWhiteSpace text = squeeze isWhiteSpace other :=
  ⟨Respaced.squeeze_eq, respaced_of_squeeze_eq⟩

instance (text other : Text) : Decidable (Respaced text other) :=
  decidable_of_iff' _ respaced_iff

/-! ## White space behind a character -/

/-- No white space stands directly behind a character. -/
def NoBlankBehind (c : Char) (text : Text) : Prop :=
  ∀ b, isWhiteSpace b = true → ¬ [c, b] <:+: text

/-- No white space stands behind the character in front nor behind a later one. -/
theorem noBlankBehind_cons_iff {c d : Char} {rest : Text} :
    NoBlankBehind c (d :: rest) ↔
      (d = c → rest.head?.any isWhiteSpace = false) ∧ NoBlankBehind c rest := by
  simp only [NoBlankBehind, pair_infix_cons_iff, not_or, imp_and, forall_and]
  apply and_congr_left'
  constructor
  · intro h heq
    cases hhead : rest.head? with
    | none => rfl
    | some b =>
      by_contra hblank
      exact h b (eq_true_of_ne_false hblank) ⟨heq, hhead⟩
  · rintro h b hb ⟨heq, hhead⟩
    have hblank := h heq
    rw [hhead, Option.any_some, hb] at hblank
    cases hblank

instance decidableNoBlankBehind (c : Char) : (text : Text) → Decidable (NoBlankBehind c text)
  | [] => .isTrue fun _ _ h => by cases List.infix_nil.mp h
  | _ :: rest =>
    have := decidableNoBlankBehind c rest
    decidable_of_iff' _ noBlankBehind_cons_iff

/-- What no white space stands behind in a text, none stands behind in its parts. -/
theorem NoBlankBehind.of_infix {c : Char} {text part : Text} (h : NoBlankBehind c text)
    (hpart : part <:+: text) : NoBlankBehind c part :=
  fun b hb hpair => h b hb (hpair.trans hpart)

/-- Squeezing puts no white space behind a character and takes none away. -/
theorem noBlankBehind_squeeze_iff {c : Char} (hc : isWhiteSpace c = false) (text : Text) :
    NoBlankBehind c (squeeze isWhiteSpace text) ↔ NoBlankBehind c text := by
  induction text with
  | nil => rfl
  | cons d text ih =>
    have hne : ∀ b, isWhiteSpace b = true → b ≠ c := by
      rintro b hb rfl
      rw [hc] at hb
      cases hb
    by_cases hd : isWhiteSpace d = true
    · have hlater : NoBlankBehind c (d :: text) ↔ NoBlankBehind c text := by
        simp [noBlankBehind_cons_iff, hne d hd]
      rw [hlater, squeeze, if_pos hd]
      split
      · exact ih
      · simp [noBlankBehind_cons_iff, hne ' ' (by decide), ih]
    · rw [squeeze_cons_of_neg (eq_false_of_ne_true hd), noBlankBehind_cons_iff,
        noBlankBehind_cons_iff, any_head?_squeeze (by decide), ih]

/-- What stands behind a character is white space in both texts or in neither. -/
theorem Respaced.noBlankBehind_iff {c : Char} {text other : Text} (h : Respaced text other)
    (hc : isWhiteSpace c = false) : NoBlankBehind c text ↔ NoBlankBehind c other := by
  rw [← noBlankBehind_squeeze_iff hc text, h.squeeze_eq, noBlankBehind_squeeze_iff hc]

end WikiText.Text
