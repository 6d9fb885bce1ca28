import Mathlib.Data.List.DropRight
import Mathlib.Data.List.Infix
import WikiText.Text.Basic

/-!
# Trimming and occurrence

A text splits into white space, its trimmed text and white space (`exists_eq_trim`), and the trimmed
text neither begins nor ends with any (`trimmed_trim`). Together they say what `Text.trim` is, so that
later proofs need not open it. `occursIn` is the infix relation of lists.
-/

namespace WikiText.Text

open Unicode (isWhiteSpace)

/-! ## Blank texts -/

/-- A text of white space. -/
def Blank (text : Text) : Prop :=
  ∀ c ∈ text, isWhiteSpace c = true

theorem blank_nil : Blank [] := by
  intro c hc
  cases hc

theorem Blank.append {text other : Text} (h : Blank text) (h' : Blank other) :
    Blank (text ++ other) := by
  intro c hc
  rcases List.mem_append.mp hc with hc | hc
  · exact h c hc
  · exact h' c hc

/-- A blank text has no ink. -/
theorem Blank.notMem {text : Text} (h : Blank text) {c : Char} (hc : isWhiteSpace c = false) :
    c ∉ text := by
  intro hmem
  rw [h c hmem] at hc
  cases hc

/-- The white space in front of a text is blank. -/
theorem blank_takeWhile (text : Text) : Blank (text.takeWhile isWhiteSpace) :=
  fun _ => List.mem_takeWhile_imp

/-- A text without white space. -/
def Inked (text : Text) : Prop :=
  ∀ c ∈ text, isWhiteSpace c = false

/-- A text has no white space, or is cut at the first of it. -/
theorem inked_or_first_blank (text : Text) :
    Inked text ∨ ∃ ink b rest, text = ink ++ b :: rest ∧ Inked ink ∧ isWhiteSpace b = true := by
  induction text with
  | nil => exact .inl fun c hc => by cases hc
  | cons c text ih =>
    by_cases hc : isWhiteSpace c = true
    · refine .inr ⟨[], c, text, rfl, ?_, hc⟩
      intro d hd
      cases hd
    · have hink : ∀ ink, Inked ink → Inked (c :: ink) := by
        intro ink hink d hd
        rcases List.mem_cons.mp hd with rfl | hd
        · exact eq_false_of_ne_true hc
        · exact hink d hd
      rcases ih with hall | ⟨ink, b, rest, rfl, hinked, hb⟩
      · exact .inl (hink text hall)
      · exact .inr ⟨c :: ink, b, rest, rfl, hink ink hinked, hb⟩

/-- A text has no white space, or is cut at the last of it. -/
theorem inked_or_last_blank (text : Text) :
    Inked text ∨ ∃ front b ink, text = front ++ b :: ink ∧ Inked ink ∧ isWhiteSpace b = true := by
  have hreverse : ∀ ink, Inked ink → Inked ink.reverse :=
    fun ink hink c hc => hink c (List.mem_reverse.mp hc)
  rcases inked_or_first_blank text.reverse with hall | ⟨ink, b, rest, htext, hink, hb⟩
  · left
    rw [← List.reverse_reverse text]
    exact hreverse _ hall
  · refine .inr ⟨rest.reverse, b, ink.reverse, ?_, hreverse ink hink, hb⟩
    rw [← List.reverse_reverse text, htext]
    simp

/-- A text that neither begins nor ends with white space. -/
structure Trimmed (text : Text) : Prop where
  head : ∀ c ∈ text.head?, isWhiteSpace c = false
  last : ∀ c ∈ text.getLast?, isWhiteSpace c = false

/-! ## Trimming -/

/-- A last character that passes the test is dropped. -/
theorem dropWhileEnd_concat (p : Char → Bool) (front : Text) (c : Char) :
    dropWhileEnd p (front ++ [c]) = if p c then dropWhileEnd p front else front ++ [c] := by
  induction front with
  | nil => simp [dropWhileEnd]
  | cons d front ih =>
    have hcons : ∀ text, dropWhileEnd p (d :: text)
        = if (dropWhileEnd p text).isEmpty && p d then [] else d :: dropWhileEnd p text :=
      fun _ => rfl
    rw [List.cons_append, hcons, hcons, ih]
    by_cases hc : p c = true
    · rw [if_pos hc, if_pos hc]
    · simp [if_neg hc]

/-- Dropping at the end is what the library calls so. -/
theorem dropWhileEnd_eq_rdropWhile (p : Char → Bool) (text : Text) :
    dropWhileEnd p text = text.rdropWhile p := by
  induction text using List.reverseRecOn with
  | nil => rfl
  | append_singleton front c ih => rw [dropWhileEnd_concat, List.rdropWhile_concat, ih]

/-- Trimming drops white space in front and then at the end. -/
theorem trim_eq (text : Text) :
    trim text = (text.dropWhile isWhiteSpace).rdropWhile isWhiteSpace :=
  dropWhileEnd_eq_rdropWhile isWhiteSpace _

/-- White space before a text is trimmed. -/
theorem trim_blank_append {left : Text} (h : Blank left) (text : Text) :
    trim (left ++ text) = trim text := by
  rw [trim_eq, trim_eq, List.dropWhile_append_of_pos h]

/-- White space after a text is trimmed. -/
theorem trim_append_blank {right : Text} (h : Blank right) (text : Text) :
    trim (text ++ right) = trim text := by
  induction right using List.reverseRecOn with
  | nil => rw [List.append_nil]
  | append_singleton front c ih =>
    have hc : isWhiteSpace c = true := h c (by simp)
    rw [← ih fun d hd => h d (by simp [hd]), ← List.append_assoc, trim_eq, trim_eq]
    by_cases hblank : Blank (text ++ front)
    · rw [List.dropWhile_append_of_pos hblank, List.dropWhile_eq_nil_iff.mpr hblank]
      simp [hc]
    · rw [List.dropWhile_append, if_neg (by
        rw [List.isEmpty_iff, List.dropWhile_eq_nil_iff]; exact hblank),
        List.rdropWhile_concat_pos _ _ _ hc]

/-- A trimmed text is kept. -/
theorem trim_of_trimmed {text : Text} (h : Trimmed text) : trim text = text := by
  have hhead : text.dropWhile isWhiteSpace = text := by
    cases text with
    | nil => rfl
    | cons c rest => exact List.dropWhile_cons_of_neg (by simp [h.head c rfl])
  rw [trim_eq, hhead, List.rdropWhile_eq_self_iff]
  intro hne
  simp [h.last _ (List.getLast?_eq_some_getLast hne)]

/-- A text is its trimmed text between white space. -/
theorem exists_eq_trim (text : Text) :
    ∃ left right, Blank left ∧ Blank right ∧ text = left ++ trim text ++ right := by
  refine ⟨text.takeWhile isWhiteSpace, (text.dropWhile isWhiteSpace).rtakeWhile isWhiteSpace,
    blank_takeWhile text, fun _ => List.mem_rtakeWhile_imp, ?_⟩
  rw [trim_eq, List.append_assoc, List.rdropWhile_append_rtakeWhile,
    List.takeWhile_append_dropWhile]

/-- What is trimmed is a trimmed text. -/
theorem trimmed_trim (text : Text) : Trimmed (trim text) where
  head := by
    intro c hc
    obtain ⟨kept, hkept⟩ := List.head?_eq_some_iff.mp (Option.mem_def.mp hc)
    obtain ⟨right, hright⟩ := List.rdropWhile_prefix isWhiteSpace (text.dropWhile isWhiteSpace)
    have hnot := List.head?_dropWhile_not isWhiteSpace text
    rw [← hright, ← trim_eq, hkept] at hnot
    simpa using hnot
  last := by
    intro c hc
    have hne : trim text ≠ [] := fun hnil => by simp [hnil] at hc
    rw [List.getLast?_eq_some_getLast hne, Option.mem_some_iff] at hc
    rw [← hc]
    simpa [trim_eq] using
      List.rdropWhile_last_not isWhiteSpace (text.dropWhile isWhiteSpace) (by rwa [← trim_eq])

/-- Trimming twice is trimming once. -/
@[simp]
theorem trim_trim (text : Text) : trim (trim text) = trim text :=
  trim_of_trimmed (trimmed_trim text)

/-- The first character after white space stands before a character that is none, or is this one. -/
theorem mem_or_eq_of_trimStart {front : Text} {c d : Char} {rest more : Text}
    (hd : isWhiteSpace d = false) (h : trimStart (front ++ d :: rest) = c :: more) :
    c ∈ front ∨ c = d := by
  induction front with
  | nil =>
    rw [List.nil_append, trimStart, List.dropWhile_cons_of_neg (by simp [hd])] at h
    exact .inr (List.cons.inj h).1.symm
  | cons e front ih =>
    by_cases he : isWhiteSpace e = true
    · rw [List.cons_append, trimStart, List.dropWhile_cons_of_pos he] at h
      exact (ih h).imp_left (List.mem_cons_of_mem e)
    · rw [List.cons_append, trimStart, List.dropWhile_cons_of_neg he] at h
      exact .inl (by rw [(List.cons.inj h).1]; exact List.mem_cons_self)

/-- A trimmed text has no white space in front, whatever comes behind it. -/
theorem Trimmed.trimStart_append {text : Text} (h : Trimmed text) (hne : text ≠ []) (rest : Text) :
    trimStart (text ++ rest) = text ++ rest := by
  obtain ⟨c, tail, rfl⟩ := List.exists_cons_of_ne_nil hne
  exact List.dropWhile_cons_of_neg (by simp [h.head c rfl])

/-! ## Occurrence -/

/-- One text occurs in another when it is an infix of it. -/
theorem occursIn_iff {part text : Text} : occursIn part text = true ↔ part <:+: text := by
  induction text with
  | nil => simp [occursIn]
  | cons c rest ih =>
    rw [occursIn, Bool.or_eq_true, ih, List.isPrefixOf_iff_prefix, List.infix_cons_iff]

/-- The test for a part fails exactly if it is none. -/
theorem occursIn_eq_false_iff {part text : Text} :
    occursIn part text = false ↔ ¬ part <:+: text := by
  rw [← occursIn_iff, Bool.not_eq_true]

/-- Two characters side by side stand at the beginning or later. -/
theorem pair_infix_cons_iff {c d e : Char} {text : Text} :
    [c, d] <:+: e :: text ↔ e = c ∧ text.head? = some d ∨ [c, d] <:+: text := by
  rw [List.infix_cons_iff, List.cons_prefix_cons]
  refine or_congr (and_congr eq_comm ?_) Iff.rfl
  cases text with
  | nil => simp
  | cons f text => simp [eq_comm]

/-- A pair does not occur where its first character is missing. -/
theorem not_pair_infix_of_notMem {c : Char} {text : Text} (h : c ∉ text) (d : Char) :
    ¬ [c, d] <:+: text :=
  fun hin => h (hin.subset List.mem_cons_self)

/-- Two characters side by side do not begin in a text that does not hold the first of them. -/
theorem pair_infix_append_of_notMem {c d : Char} {front : Text} (h : c ∉ front) {text : Text} :
    [c, d] <:+: front ++ text ↔ [c, d] <:+: text := by
  induction front with
  | nil => rfl
  | cons e front ih =>
    obtain ⟨hne, hrest⟩ := List.ne_and_not_mem_of_not_mem_cons h
    rw [List.cons_append, pair_infix_cons_iff, ih hrest]
    exact or_iff_right fun hboth => hne hboth.1.symm

/-- Two characters side by side stand on one side of another character. -/
theorem pair_infix_append_cons {c d e : Char} (hc : e ≠ c) (hd : e ≠ d) {front text : Text} :
    [c, d] <:+: front ++ e :: text ↔ [c, d] <:+: front ∨ [c, d] <:+: text := by
  induction front with
  | nil =>
    rw [List.nil_append, pair_infix_cons_iff]
    simp [hc]
  | cons f front ih =>
    have hhead : (front ++ e :: text).head? = some d ↔ front.head? = some d := by
      cases front with
      | nil => simp [hd]
      | cons g front => rfl
    rw [List.cons_append, pair_infix_cons_iff, pair_infix_cons_iff, ih, hhead, or_assoc]

/-- A character stands twice side by side in a run of it, or behind the run. -/
theorem pair_infix_replicate_append {c : Char} {text : Text} (h : text.head? ≠ some c) {length : ℕ} :
    [c, c] <:+: List.replicate length c ++ text ↔ 2 ≤ length ∨ [c, c] <:+: text := by
  induction length with
  | zero => simp
  | succ length ih =>
    have hhead : (List.replicate length c ++ text).head? = some c ↔ 1 ≤ length := by
      cases length with
      | zero => simpa using h
      | succ length => simp [List.replicate_succ]
    have hmore : c = c ∧ 1 ≤ length ∨ 2 ≤ length ↔ 2 ≤ length + 1 := by
      simp only [true_and]
      omega
    rw [List.replicate_succ, List.cons_append, pair_infix_cons_iff, ih, hhead, ← or_assoc, hmore]

/-- Texts are the same up to the first of a character and behind it. -/
theorem eq_and_eq_of_append_cons {c : Char} {front front' back back' : Text} (hfront : c ∉ front)
    (hfront' : c ∉ front') (h : front ++ c :: back = front' ++ c :: back') :
    front = front' ∧ back = back' := by
  rcases List.append_eq_append_iff.mp h with ⟨more, rfl, hmore⟩ | ⟨more, rfl, hmore⟩
  · cases more with
    | nil => exact ⟨(List.append_nil front).symm, (List.cons.inj hmore).2⟩
    | cons d more =>
      obtain ⟨rfl, -⟩ := List.cons.inj hmore
      exact absurd (List.mem_append_right front List.mem_cons_self) hfront'
  · cases more with
    | nil => exact ⟨List.append_nil front', (List.cons.inj hmore).2.symm⟩
    | cons d more =>
      obtain ⟨rfl, -⟩ := List.cons.inj hmore
      exact absurd (List.mem_append_right front' List.mem_cons_self) hfront

/-! ## Characters that a pass keeps -/

/-- If a pass treats what is before and after a character apart and writes the character nowhere else,
then it leaves the character where it stood. -/
theorem exists_of_pass_eq {pass : Text → Text} {c : Char}
    (happend : ∀ text rest, pass (text ++ c :: rest) = pass text ++ c :: pass rest)
    (hmem : ∀ text, c ∈ pass text → c ∈ text) {text front back : Text}
    (h : pass text = front ++ c :: back) :
    ∃ before after, text = before ++ c :: after ∧ pass before = front ∧ pass after = back := by
  have hin : c ∈ text := hmem text (by rw [h]; simp)
  obtain ⟨before, after, rfl, hbefore⟩ := List.eq_append_cons_of_mem hin
  have hfirst : c ∉ pass before := mt (hmem before) hbefore
  rw [happend] at h
  rcases List.append_eq_append_iff.mp h with ⟨more, hfront, hback⟩ | ⟨more, hfront, hback⟩
  · cases more with
    | nil =>
      rw [List.append_nil] at hfront
      exact ⟨before, after, rfl, hfront.symm, (List.cons.inj hback).2⟩
    | cons d more =>
      -- the place is a later one, and the text behind the first one is shorter
      obtain ⟨rfl, hlater⟩ := List.cons.inj hback
      obtain ⟨inner, last, rfl, hinner, hlast⟩ := exists_of_pass_eq happend hmem hlater
      refine ⟨before ++ c :: inner, last, by simp, ?_, hlast⟩
      rw [happend, hinner, hfront]
  · cases more with
    | nil =>
      rw [List.append_nil] at hfront
      exact ⟨before, after, rfl, hfront, (List.cons.inj hback).2.symm⟩
    | cons d more =>
      obtain ⟨rfl, -⟩ := List.cons.inj hback
      exact absurd (by rw [hfront]; simp) hfirst
termination_by text.length
decreasing_by
  subst_vars
  simp only [List.length_append, List.length_cons]
  omega

end WikiText.Text
