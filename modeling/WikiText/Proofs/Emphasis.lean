import Mathlib.Data.List.Infix
import WikiText.Emphasis

/-!
# Emphasis and the text around it

A line is read run by run (`run_induction`), and a text line by line (`Text.line_induction`). Only runs
of two or more apostrophes are markers, so a character that does not begin such a run is kept, and what is
read after it is not affected by it (`stripAll_cons`). A text without apostrophes behind another one
changes nothing in it either (`stripAll_append`).
-/

namespace WikiText

namespace Text

/-! ## Pieces -/

/-- A text is cut into at least one piece. -/
theorem exists_split (p : Char → Bool) (text : Text) :
    ∃ piece pieces, split p text = piece :: pieces := by
  cases text with
  | nil => exact ⟨[], [], rfl⟩
  | cons c rest =>
    rw [split]
    split
    · exact ⟨[], _, rfl⟩
    · split
      · exact ⟨[c], [], rfl⟩
      · exact ⟨_, _, rfl⟩

/-- A separator at the front ends an empty piece. -/
theorem split_cons_of_pos {p : Char → Bool} {c : Char} (h : p c = true) (rest : Text) :
    split p (c :: rest) = [] :: split p rest := by
  rw [split, if_pos h]

/-- Any other character at the front begins the first piece. -/
theorem split_cons_of_neg {p : Char → Bool} {c : Char} (h : p c = false) {rest piece : Text}
    {pieces : List Text} (hrest : split p rest = piece :: pieces) :
    split p (c :: rest) = (c :: piece) :: pieces := by
  rw [split, if_neg (by simp [h]), hrest]

/-- The first piece begins with the first character of the text, unless it is empty. -/
theorem head?_of_split {p : Char → Bool} {text piece : Text} {pieces : List Text} {c : Char}
    (h : split p text = piece :: pieces) (hc : piece.head? = some c) : text.head? = some c := by
  cases text with
  | nil =>
    cases h
    cases hc
  | cons d rest =>
    obtain ⟨first, others, hrest⟩ := exists_split p rest
    by_cases hd : p d = true
    · rw [split_cons_of_pos hd] at h
      cases h
      cases hc
    · rw [split_cons_of_neg (eq_false_of_ne_true hd) hrest] at h
      cases h
      exact hc

/-- A piece goes up to the first character that cuts. -/
theorem split_append_cons {p : Char → Bool} {line : Text} (h : ∀ c ∈ line, p c = false) {d : Char}
    (hd : p d = true) (rest : Text) : split p (line ++ d :: rest) = line :: split p rest := by
  induction line with
  | nil => exact split_cons_of_pos hd rest
  | cons c line ih =>
    have hline := ih fun e he => h e (List.mem_cons_of_mem c he)
    exact split_cons_of_neg (h c List.mem_cons_self) hline

/-- A text without separators is one piece. -/
theorem split_of_forall {p : Char → Bool} {line : Text} (h : ∀ c ∈ line, p c = false) :
    split p line = [line] := by
  induction line with
  | nil => rfl
  | cons c line ih =>
    have hline := ih fun e he => h e (List.mem_cons_of_mem c he)
    exact split_cons_of_neg (h c List.mem_cons_self) hline

/-- A property of all texts, shown line by line. -/
@[elab_as_elim]
theorem line_induction {motive : Text → Prop} (last : ∀ line, '\n' ∉ line → motive line)
    (more : ∀ line rest, '\n' ∉ line → motive rest → motive (line ++ '\n' :: rest))
    (text : Text) : motive text := by
  by_cases h : '\n' ∈ text
  · obtain ⟨line, rest, rfl, hline⟩ := List.eq_append_cons_of_mem h
    exact more line rest hline (line_induction last more rest)
  · exact last text h
termination_by text.length
decreasing_by
  subst_vars
  simp only [List.length_append, List.length_cons]
  omega

/-- No character of a line is a newline. -/
theorem beq_newline_of_notMem {line : Text} (h : '\n' ∉ line) :
    ∀ c ∈ line, (c == '\n') = false :=
  fun _ hc => beq_eq_false_iff_ne.mpr fun heq => h (heq ▸ hc)

/-- A line is one piece. -/
theorem split_line {line : Text} (h : '\n' ∉ line) : split (· == '\n') line = [line] :=
  split_of_forall (beq_newline_of_notMem h)

/-- The first newline ends the first piece. -/
theorem split_line_append {line : Text} (h : '\n' ∉ line) (rest : Text) :
    split (· == '\n') (line ++ '\n' :: rest) = line :: split (· == '\n') rest :=
  split_append_cons (beq_newline_of_notMem h) rfl rest

/-- What is found in a text by looking through its lines is found in one of them. -/
theorem exists_line_iff {P Q : Text → Prop} (hlast : ∀ line, '\n' ∉ line → (P line ↔ Q line))
    (hmore : ∀ line rest, '\n' ∉ line → (P (line ++ '\n' :: rest) ↔ Q line ∨ P rest)) (text : Text) :
    P text ↔ ∃ line ∈ split (· == '\n') text, Q line := by
  induction text using line_induction with
  | last line hline =>
    rw [split_line hline, hlast line hline]
    simp only [List.mem_singleton, exists_eq_left]
  | more line rest hline ih =>
    rw [split_line_append hline, hmore line rest hline, ih]
    simp only [List.mem_cons, exists_eq_or_imp]

end Text

namespace Emphasis

variable {text rest : Text} {length : ℕ} {c : Char}

/-! ## Runs -/

/-- A character that is no apostrophe is a part by itself. -/
theorem parts_cons_of_ne (h : c ≠ '\x27') (rest : Text) :
    parts (c :: rest) = .char c :: parts rest := by
  rw [parts, if_neg h]

/-- An apostrophe alone is a run of length one. -/
theorem parts_cons_of_single (h : rest.head? ≠ some '\x27') :
    parts ('\x27' :: rest) = .run 1 :: parts rest := by
  rw [parts, if_pos rfl]
  cases rest with
  | nil => rfl
  | cons c rest =>
    have hc : c ≠ '\x27' := fun heq => h (by rw [heq]; rfl)
    rw [parts_cons_of_ne hc]

/-- A text that begins with an apostrophe begins with a run of them. -/
theorem exists_run (h : text.head? = some '\x27') :
    ∃ length rest, text = List.replicate length '\x27' ++ rest ∧ 0 < length ∧
      rest.head? ≠ some '\x27' := by
  induction text with
  | nil => cases h
  | cons c text ih =>
    obtain rfl : c = '\x27' := Option.some.inj h
    by_cases hnext : text.head? = some '\x27'
    · obtain ⟨length, rest, rfl, -, hrest⟩ := ih hnext
      exact ⟨length + 1, rest, rfl, Nat.succ_pos length, hrest⟩
    · exact ⟨1, text, rfl, Nat.one_pos, hnext⟩

/-- A property of all texts, shown run by run. -/
@[elab_as_elim]
theorem run_induction {motive : Text → Prop} (nil : motive [])
    (char : ∀ c rest, c ≠ '\x27' → motive rest → motive (c :: rest))
    (run : ∀ length rest, 0 < length → rest.head? ≠ some '\x27' → motive rest →
      motive (List.replicate length '\x27' ++ rest)) (text : Text) : motive text := by
  induction hsize : text.length using Nat.strong_induction_on generalizing text with
  | _ size ih =>
    subst hsize
    cases text with
    | nil => exact nil
    | cons c rest =>
      by_cases hc : c = '\x27'
      · have hhead : (c :: rest).head? = some '\x27' := congrArg some hc
        obtain ⟨length, rest, heq, hpos, hrest⟩ := exists_run hhead
        rw [heq] at ih ⊢
        refine run length rest hpos hrest (ih rest.length ?_ rest rfl)
        rw [List.length_append, List.length_replicate]
        omega
      · exact char c rest hc (ih rest.length (Nat.lt_succ_self _) rest rfl)

/-- A run of apostrophes is one part. -/
theorem parts_run (hpos : 0 < length) (hrest : rest.head? ≠ some '\x27') :
    parts (List.replicate length '\x27' ++ rest) = .run length :: parts rest := by
  induction length, hpos using Nat.le_induction with
  | base => exact parts_cons_of_single hrest
  | succ length hpos ih => rw [List.replicate_succ, List.cons_append, parts, if_pos rfl, ih]

/-- Where no run goes on, a text can be cut in two before it is cut at its runs. -/
theorem parts_append_of_cut {before rest : Text}
    (h : before.getLast? = some '\x27' → rest.head? ≠ some '\x27') :
    parts (before ++ rest) = parts before ++ parts rest := by
  induction before using run_induction with
  | nil => rfl
  | char c before hc ih =>
    have hbefore : before.getLast? = some '\x27' → rest.head? ≠ some '\x27' := by
      intro hlast
      apply h
      rw [List.getLast?_cons, hlast]
      rfl
    rw [List.cons_append, parts_cons_of_ne hc, parts_cons_of_ne hc, ih hbefore]
    rfl
  | run length before hpos hbefore ih =>
    have hlast : before.getLast? = some '\x27' → rest.head? ≠ some '\x27' := by
      intro hlast
      apply h
      rw [List.getLast?_append, hlast]
      rfl
    -- the run ends where it did, before the text behind it or in front of the rest
    have hhead : (before ++ rest).head? ≠ some '\x27' := by
      cases before with
      | nil =>
        apply h
        rw [List.append_nil, List.getLast?_replicate, if_neg (Nat.ne_of_gt hpos)]
      | cons d before => exact hbefore
    rw [List.append_assoc, parts_run hpos hhead, parts_run hpos hbefore, ih hlast]
    rfl

/-- Any other character separates the parts before it from those behind it. -/
theorem parts_append_cons (hc : c ≠ '\x27') (line rest : Text) :
    parts (line ++ c :: rest) = parts line ++ .char c :: parts rest := by
  have hcut : line.getLast? = some '\x27' → (c :: rest).head? ≠ some '\x27' :=
    fun _ hhead => hc (Option.some.inj hhead)
  rw [parts_append_of_cut hcut, parts_cons_of_ne hc]

/-- Without apostrophes, each character is a part. -/
theorem parts_of_notMem (h : '\x27' ∉ text) : parts text = text.map .char := by
  induction text with
  | nil => rfl
  | cons c rest ih =>
    obtain ⟨hc, hrest⟩ := List.ne_and_not_mem_of_not_mem_cons h
    rw [parts_cons_of_ne (Ne.symm hc), ih hrest, List.map_cons]

/-- Text without apostrophes behind a line adds its characters as parts. -/
theorem parts_append {after : Text} (h : '\x27' ∉ after) (line : Text) :
    parts (line ++ after) = parts line ++ after.map .char := by
  rw [parts_append_of_cut fun _ hhead => h (List.mem_of_mem_head? hhead), parts_of_notMem h]

/-! ## Lines -/

/-- The emphasis behind a run, of one apostrophe too. -/
def State.next (state : State) (length : ℕ) (boldFollows : Bool) : State :=
  if length < 2 then state else (state.advance length boldFollows).1

/-- How many apostrophes of a run are text. -/
def State.left (state : State) (length : ℕ) (boldFollows : Bool) : ℕ :=
  if length < 2 then length else length - (state.advance length boldFollows).2

/-- Of a run at most all of it is left. -/
theorem State.left_le (state : State) (length : ℕ) (boldFollows : Bool) :
    state.left length boldFollows ≤ length := by
  rw [State.left]
  split
  · exact le_rfl
  · exact Nat.sub_le _ _

/-- Of a run is left what the state and the rest of the line say. -/
theorem strip_run (state : State) (length : ℕ) (rest : List Part) :
    strip state (.run length :: rest)
      = List.replicate (state.left length (rest.any Part.switchesBold)) '\x27'
        ++ strip (state.next length (rest.any Part.switchesBold)) rest := by
  rw [strip, State.left, State.next]
  split <;> rfl

/-- A character that begins no marker is kept, whatever is open. -/
theorem strip_parts_cons {c : Char} {rest : Text} (h : c = '\x27' → rest.head? ≠ some '\x27')
    (state : State) : strip state (parts (c :: rest)) = c :: strip state (parts rest) := by
  by_cases hc : c = '\x27'
  · subst hc
    rw [parts_cons_of_single (h rfl)]
    rfl
  · rw [parts_cons_of_ne hc]
    rfl

/-- Characters at the end of a line switch no bold text. -/
theorem any_switchesBold_append (rest : List Part) (after : Text) :
    (rest ++ after.map Part.char).any Part.switchesBold = rest.any Part.switchesBold := by
  have hnone : (after.map Part.char).any Part.switchesBold = false := by
    simp [List.any_map, Part.switchesBold]
  rw [List.any_append, hnone, Bool.or_false]

/-- Characters at the end of a line stay. -/
theorem strip_append (state : State) (line : List Part) (after : Text) :
    strip state (line ++ after.map .char) = strip state line ++ after := by
  induction line generalizing state with
  | nil =>
    induction after with
    | nil => rfl
    | cons c rest ih => exact congrArg (c :: ·) ih
  | cons part rest ih =>
    cases part with
    | char c => exact congrArg (c :: ·) (ih state)
    | run length =>
      rw [List.cons_append, strip_run, strip_run, any_switchesBold_append, ih, List.append_assoc]

/-- Text without apostrophes at the end of a line stays. -/
theorem stripLine_append {after : Text} (h : '\x27' ∉ after) (line : Text) :
    stripLine (line ++ after) = stripLine line ++ after := by
  rw [stripLine, parts_append h, strip_append]
  rfl

/-! ## Texts -/

/-- Emphasis is stripped line by line. -/
theorem stripAll_eq (text : Text) {piece : Text} {pieces : List Text}
    (h : Text.split (· == '\n') text = piece :: pieces) :
    stripAll text = ['\n'].intercalate (stripLine piece :: pieces.map stripLine) := by
  rw [stripAll, h]
  rfl

/-- A character that begins no marker is kept, and does not matter for the text after it. -/
theorem stripAll_cons {c : Char} {rest : Text} (h : c = '\x27' → rest.head? ≠ some '\x27') :
    stripAll (c :: rest) = c :: stripAll rest := by
  obtain ⟨piece, pieces, hrest⟩ := Text.exists_split (· == '\n') rest
  by_cases hc : (c == '\n') = true
  · have hsplit := Text.split_cons_of_pos (p := (· == '\n')) hc rest
    rw [hrest] at hsplit
    rw [stripAll_eq _ hsplit, stripAll_eq _ hrest, List.map_cons, List.intercalate_cons_cons,
      eq_of_beq hc]
    rfl
  · have hsplit := Text.split_cons_of_neg (p := (· == '\n')) (eq_false_of_ne_true hc) hrest
    have hpiece : c = '\x27' → piece.head? ≠ some '\x27' :=
      fun heq hhead => h heq (Text.head?_of_split hrest hhead)
    rw [stripAll_eq _ hsplit, stripAll_eq _ hrest, stripLine, strip_parts_cons hpiece,
      List.intercalate_cons_cons_left]
    rfl

/-- A text without two apostrophes side by side has no markers. -/
theorem stripAll_of_not_infix {text : Text} (h : ¬ ['\x27', '\x27'] <:+: text) :
    stripAll text = text := by
  induction text with
  | nil => rfl
  | cons c rest ih =>
    have hrest : ¬ ['\x27', '\x27'] <:+: rest :=
      fun hin => h (hin.trans (List.suffix_cons c rest).isInfix)
    have hsingle : c = '\x27' → rest.head? ≠ some '\x27' := by
      rintro rfl hhead
      obtain ⟨others, rfl⟩ := List.head?_eq_some_iff.mp hhead
      exact h ⟨[], others, rfl⟩
    rw [stripAll_cons hsingle, ih hrest]

/-- Lines are read one by one. -/
theorem stripAll_line_append {line : Text} (h : '\n' ∉ line) (rest : Text) :
    stripAll (line ++ '\n' :: rest) = stripLine line ++ '\n' :: stripAll rest := by
  have hsplit := Text.split_line_append h rest
  obtain ⟨piece, pieces, hrest⟩ := Text.exists_split (· == '\n') rest
  rw [hrest] at hsplit
  rw [stripAll_eq _ hsplit, stripAll_eq _ hrest, List.map_cons, List.intercalate_cons_cons,
    List.append_assoc]
  rfl

/-- Stripping a text of one line strips that line. -/
theorem stripAll_line {line : Text} (h : '\n' ∉ line) : stripAll line = stripLine line := by
  rw [stripAll_eq _ (Text.split_line h), List.map_nil, List.intercalate_singleton]

/-- Text without apostrophes before another text stays. -/
theorem stripAll_append_of_notMem {before : Text} (h : '\x27' ∉ before) (text : Text) :
    stripAll (before ++ text) = before ++ stripAll text := by
  induction before with
  | nil => rfl
  | cons c rest ih =>
    obtain ⟨hc, hrest⟩ := List.ne_and_not_mem_of_not_mem_cons h
    rw [List.cons_append, stripAll_cons fun heq => absurd heq.symm hc, ih hrest]
    rfl

/-- A text without apostrophes does not matter for the text before it. -/
theorem stripAll_append {after : Text} (h : '\x27' ∉ after) (text : Text) :
    stripAll (text ++ after) = stripAll text ++ after := by
  induction text using Text.line_induction with
  | last line hline =>
    rw [stripAll_line hline]
    by_cases hafter : '\n' ∈ after
    · -- the line goes on in what follows it
      obtain ⟨first, rest, rfl, hnewline⟩ := List.eq_append_cons_of_mem hafter
      have hfirst : '\x27' ∉ first := fun hmem => h (List.mem_append_left _ hmem)
      have hrest : ¬ ['\x27', '\x27'] <:+: rest := fun hin =>
        h (List.mem_append_right _ (List.mem_cons_of_mem _ (hin.subset List.mem_cons_self)))
      rw [← List.append_assoc, stripAll_line_append (by simp [hline, hnewline]),
        stripLine_append hfirst, stripAll_of_not_infix hrest, List.append_assoc]
    · rw [stripAll_line (by simp [hline, hafter]), stripLine_append h]
  | more line rest hline ih =>
    rw [List.append_assoc, List.cons_append, stripAll_line_append hline, stripAll_line_append hline,
      ih, List.append_assoc]
    rfl

/-! ## Characters that stay -/

/-- A character that is no apostrophe is one of the parts. -/
theorem char_mem_parts (hc : c ≠ '\x27') {line : Text} (h : c ∈ line) : .char c ∈ parts line := by
  induction line using run_induction with
  | nil => cases h
  | char d line hd ih =>
    rw [parts_cons_of_ne hd]
    rcases List.mem_cons.mp h with rfl | h
    · exact List.mem_cons_self
    · exact List.mem_cons_of_mem _ (ih h)
  | run length line hpos hline ih =>
    rw [parts_run hpos hline]
    rcases List.mem_append.mp h with h | h
    · exact absurd (List.eq_of_mem_replicate h) hc
    · exact List.mem_cons_of_mem _ (ih h)

/-- The characters among the parts stay. -/
theorem mem_strip {line : List Part} (h : .char c ∈ line) (state : State) : c ∈ strip state line := by
  induction line generalizing state with
  | nil => cases h
  | cons part line ih =>
    cases part with
    | char d =>
      rcases List.mem_cons.mp h with heq | h
      · rw [Part.char.inj heq]
        exact List.mem_cons_self
      · exact List.mem_cons_of_mem d (ih h state)
    | run length =>
      rw [strip_run]
      exact List.mem_append_right _ (ih (List.mem_of_ne_of_mem Part.noConfusion h) _)

/-- A character that is no apostrophe stays. -/
theorem mem_stripLine (hc : c ≠ '\x27') {line : Text} (h : c ∈ line) :
    c ∈ stripLine line :=
  mem_strip (char_mem_parts hc h) .upright

/-- Nothing but apostrophes is taken out of a text. -/
theorem mem_stripAll (hc : c ≠ '\x27') (h : c ∈ text) :
    c ∈ stripAll text := by
  induction text using Text.line_induction with
  | last line hline =>
    rw [stripAll_line hline]
    exact mem_stripLine hc h
  | more line rest hline ih =>
    rw [stripAll_line_append hline]
    rcases List.mem_append.mp h with h | h
    · exact List.mem_append_left _ (mem_stripLine hc h)
    · rcases List.mem_cons.mp h with rfl | h
      · exact List.mem_append_right _ List.mem_cons_self
      · exact List.mem_append_right _ (List.mem_cons_of_mem _ (ih h))

end Emphasis

end WikiText
