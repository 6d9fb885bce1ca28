import WikiText.Proofs.Emphasis.Runs
import WikiText.Proofs.Text.Trim

/-!
# Apostrophes that stay

Of most runs no more than one apostrophe stays. Two or more stay of a run of at least seven, and of a run
of four that ends the italic (`State.two_le_left_iff`). The characters between the runs stay too and keep
what is left of the runs apart, so that these are all the apostrophes that stand side by side in a text
without its markers (`residue_iff`).
-/

namespace WikiText.Emphasis

/-- How many apostrophes are markers: of a run of three or four two if it ends the italic, and else as
many as can be. -/
theorem State.markers_eq (state : State) (length : ℕ) (boldFollows : Bool) :
    (state.advance length boldFollows).2
      = if 5 ≤ length then 5
        else if 3 ≤ length then if state = .italic ∧ boldFollows = false then 2 else 3
        else 2 := by
  unfold State.advance
  split
  · cases state <;> rfl
  · split
    · cases state <;> cases boldFollows <;> rfl
    · cases state <;> rfl

/-- The markers that a run is read as are no longer than the run. -/
theorem State.markers_le {length : ℕ} (h : 2 ≤ length) (state : State) (boldFollows : Bool) :
    (state.advance length boldFollows).2 ≤ length := by
  rw [State.markers_eq]
  split_ifs <;> omega

/-- Two or more apostrophes are left of a run of seven or more, and of one of four that closes italic
text. -/
theorem State.two_le_left_iff (state : State) (length : ℕ) (boldFollows : Bool) :
    2 ≤ state.left length boldFollows ↔
      7 ≤ length ∨ length = 4 ∧ state = .italic ∧ boldFollows = false := by
  rw [State.left, State.markers_eq]
  by_cases hends : state = .italic ∧ boldFollows = false
  · rw [if_pos hends, and_iff_left hends]
    split_ifs <;> omega
  · rw [if_neg hends, iff_false_intro hends, and_false, or_false]
    split_ifs <;> omega

/-! ## Lines -/

/-- A text that begins with no apostrophe begins with none when it is stripped. -/
theorem head?_strip_parts {text : Text} (h : text.head? ≠ some '\x27') (state : State) :
    (strip state (parts text)).head? ≠ some '\x27' := by
  cases text with
  | nil => exact h
  | cons c text =>
    have hc : c ≠ '\x27' := fun heq => h (congrArg some heq)
    rw [strip_parts_cons fun heq => absurd heq hc]
    exact h

/-- Apostrophes stand side by side in a line without its markers where a run leaves them. -/
theorem infix_strip_iff (state : State) (text : Text) :
    ['\x27', '\x27'] <:+: strip state (parts text) ↔
      ∃ before length after, IsRun text before length after ∧
        2 ≤ (state.behind (.run length :: parts after) (parts before)).left length
          ((parts after).any Part.switchesBold) := by
  induction text using run_induction generalizing state with
  | nil =>
    constructor
    · intro h
      exact absurd h.length_le (by simp [parts, strip])
    · rintro ⟨before, length, after, hrun, -⟩
      exact absurd hrun not_isRun_nil
  | char c rest hc ih =>
    -- a character that is no apostrophe is kept and makes no pair
    have hpair : ['\x27', '\x27'] <:+: strip state (parts (c :: rest)) ↔
        ['\x27', '\x27'] <:+: strip state (parts rest) := by
      rw [parts_cons_of_ne hc, strip, Text.pair_infix_cons_iff]
      exact or_iff_right fun hboth => hc hboth.1
    rw [hpair, ih]
    constructor
    · rintro ⟨front, length, after, hrun, hleft⟩
      refine ⟨c :: front, length, after, (isRun_cons_iff hc).mpr ⟨front, rfl, hrun⟩, ?_⟩
      rw [parts_cons_of_ne hc]
      exact hleft
    · rintro ⟨before, length, after, hrun, hleft⟩
      obtain ⟨front, rfl, hfront⟩ := (isRun_cons_iff hc).mp hrun
      rw [parts_cons_of_ne hc] at hleft
      exact ⟨front, length, after, hfront, hleft⟩
  | run other rest hpos hrest ih =>
    rw [parts_run hpos hrest, strip_run,
      Text.pair_infix_replicate_append (head?_strip_parts hrest _), ih]
    -- the state behind this run is what the runs in the rest begin with
    have hbehind : ∀ front length after, IsRun rest front length after →
        state.behind (.run length :: parts after) (parts (List.replicate other '\x27' ++ front))
          = (state.next other ((parts rest).any Part.switchesBold)).behind
            (.run length :: parts after) (parts front) := by
      intro front length after hrun
      rw [parts_run hpos (hrun.head?_before hrest), State.behind, hrun.parts_eq]
    constructor
    · rintro (hleft | ⟨front, length, after, hrun, hleft⟩)
      · exact ⟨[], other, rest, (isRun_run_iff hpos hrest).mpr (.inl ⟨rfl, rfl, rfl⟩), hleft⟩
      · refine ⟨_, length, after, (isRun_run_iff hpos hrest).mpr (.inr ⟨front, rfl, hrun⟩), ?_⟩
        rw [hbehind front length after hrun]
        exact hleft
    · rintro ⟨before, length, after, hrun, hleft⟩
      rcases (isRun_run_iff hpos hrest).mp hrun with ⟨rfl, rfl, rfl⟩ | ⟨front, rfl, hfront⟩
      · exact .inl hleft
      · rw [hbehind front length after hfront] at hleft
        exact .inr ⟨front, length, after, hfront, hleft⟩

/-- No run that could switch bold stands in a text. -/
theorem any_switchesBold_eq_false_iff (text : Text) :
    (parts text).any Part.switchesBold = false ↔
      ∀ before length after, IsRun text before length after → length < 3 := by
  rw [List.any_eq_false]
  constructor
  · intro hnone before length after hrun
    have hlength := hnone (.run length) (run_mem_parts_iff.mpr ⟨before, after, hrun⟩)
    simpa [Part.switchesBold] using hlength
  · intro hshort part hpart
    cases part with
    | char c => exact Bool.false_ne_true
    | run length =>
      obtain ⟨before, after, hrun⟩ := run_mem_parts_iff.mp hpart
      simpa [Part.switchesBold] using hshort before length after hrun

/-- What stays of the apostrophes of a line, in terms of its runs. -/
theorem infix_stripLine_iff (line : Text) :
    ['\x27', '\x27'] <:+: stripLine line ↔
      (∃ length, 7 ≤ length ∧ ∃ before after, IsRun line before length after) ∨
      ∃ before after, IsRun line before 4 after ∧
        openAt before (List.replicate 4 '\x27' ++ after) = .italic ∧
        ∀ between length behind, IsRun after between length behind → length < 3 := by
  have hopen : ∀ {before length after}, IsRun line before length after →
      State.upright.behind (.run length :: parts after) (parts before)
        = openAt before (List.replicate length '\x27' ++ after) := by
    intro before length after hrun
    rw [openAt, parts_run hrun.pos hrun.head]
  rw [stripLine, infix_strip_iff]
  constructor
  · rintro ⟨before, length, after, hrun, hleft⟩
    rw [hopen hrun, State.two_le_left_iff] at hleft
    rcases hleft with hlong | ⟨rfl, hitalic, hlast⟩
    · exact .inl ⟨length, hlong, before, after, hrun⟩
    · exact .inr ⟨before, after, hrun, hitalic, (any_switchesBold_eq_false_iff after).mp hlast⟩
  · rintro (⟨length, hlong, before, after, hrun⟩ | ⟨before, after, hrun, hitalic, hlast⟩)
    · exact ⟨before, length, after, hrun, (State.two_le_left_iff _ _ _).mpr (.inl hlong)⟩
    · refine ⟨before, 4, after, hrun, (State.two_le_left_iff _ _ _).mpr (.inr ⟨rfl, ?_, ?_⟩)⟩
      · rw [hopen hrun, hitalic]
      · exact (any_switchesBold_eq_false_iff after).mpr hlast

/-! ## Texts -/

/-- Apostrophes do not stand side by side across the end of a line. -/
theorem infix_stripAll_iff (text : Text) :
    ['\x27', '\x27'] <:+: stripAll text ↔
      ∃ line ∈ Text.split (· == '\n') text, ['\x27', '\x27'] <:+: stripLine line := by
  refine Text.exists_line_iff (P := fun text => ['\x27', '\x27'] <:+: stripAll text)
    (fun line hline => ?_) (fun line rest hline => ?_) text
  · rw [stripAll_line hline]
  · rw [stripAll_line_append hline, Text.pair_infix_append_cons (by decide) (by decide)]

/-- The runs of a text are those of its lines. -/
theorem exists_isRun_iff (text : Text) (length : ℕ) :
    (∃ before after, IsRun text before length after) ↔
      ∃ line ∈ Text.split (· == '\n') text, ∃ before after, IsRun line before length after := by
  simp only [← run_mem_parts_iff]
  refine Text.exists_line_iff (P := fun text => .run length ∈ parts text) (fun _ _ => Iff.rfl)
    (fun line rest _ => ?_) text
  rw [parts_append_cons (by decide), List.mem_append, List.mem_cons]
  simp only [reduceCtorEq, false_or]

/-- **Apostrophes stand side by side in a text without its markers** if and only if a run of at least
seven stands in the text, or a run of four where italic is open, behind which no run of at least three
stands on its line. So to take the markers out of a text without runs of four and of seven or more leaves
none to be taken out. -/
theorem residue_iff (text : Text) :
    (['\x27', '\x27'] <:+: stripAll text ↔
      (∃ before length after, IsRun text before length after ∧ 7 ≤ length) ∨
      ∃ line ∈ Text.split (· == '\n') text, ∃ before after, IsRun line before 4 after ∧
        openAt before (List.replicate 4 '\x27' ++ after) = .italic ∧
        ∀ between length behind, IsRun after between length behind → length < 3) ∧
    ((∀ before length after, IsRun text before length after → length ≠ 4 ∧ length < 7) →
      stripAll (stripAll text) = stripAll text) := by
  have hresidue : ['\x27', '\x27'] <:+: stripAll text ↔
      (∃ before length after, IsRun text before length after ∧ 7 ≤ length) ∨
      ∃ line ∈ Text.split (· == '\n') text, ∃ before after, IsRun line before 4 after ∧
        openAt before (List.replicate 4 '\x27' ++ after) = .italic ∧
        ∀ between length behind, IsRun after between length behind → length < 3 := by
    rw [infix_stripAll_iff]
    constructor
    · rintro ⟨line, hline, hpair⟩
      rcases (infix_stripLine_iff line).mp hpair with ⟨length, hlong, hrun⟩ | hfour
      · obtain ⟨before, after, hrun⟩ := (exists_isRun_iff text length).mpr ⟨line, hline, hrun⟩
        exact .inl ⟨before, length, after, hrun, hlong⟩
      · exact .inr ⟨line, hline, hfour⟩
    · rintro (⟨before, length, after, hrun, hlong⟩ | ⟨line, hline, hfour⟩)
      · obtain ⟨line, hline, hrun⟩ := (exists_isRun_iff text length).mp ⟨before, after, hrun⟩
        exact ⟨line, hline, (infix_stripLine_iff line).mpr (.inl ⟨length, hlong, hrun⟩)⟩
      · exact ⟨line, hline, (infix_stripLine_iff line).mpr (.inr hfour)⟩
  -- without such runs no pair is left, and a text without pairs is kept
  refine ⟨hresidue, fun hruns => stripAll_of_not_infix fun hpair => ?_⟩
  rcases hresidue.mp hpair with ⟨before, length, after, hrun, hlong⟩ | ⟨line, hline, _, _, hrun, -⟩
  · exact absurd (hruns before length after hrun).2 (Nat.not_lt_of_le hlong)
  · obtain ⟨before, after, hrun⟩ := (exists_isRun_iff text 4).mpr ⟨line, hline, _, _, hrun⟩
    exact (hruns before 4 after hrun).1 rfl

/-- A run of three that ends the italic, and leaves one apostrophe. -/
theorem residue_iff_single :
    (∀ before length after, IsRun "\x27\x27a\x27\x27\x27b".toList before length after →
        length ≠ 4 ∧ length < 7) ∧
      stripAll (stripAll "\x27\x27a\x27\x27\x27b".toList)
        = stripAll "\x27\x27a\x27\x27\x27b".toList := by
  have hparts : parts "\x27\x27a\x27\x27\x27b".toList = [.run 2, .char 'a', .run 3, .char 'b'] := by
    decide
  have hruns : ∀ before length after, IsRun "\x27\x27a\x27\x27\x27b".toList before length after →
      length ≠ 4 ∧ length < 7 := by
    intro before length after hrun
    have hmem := run_mem_parts_iff.mpr ⟨before, after, hrun⟩
    rw [hparts] at hmem
    simp only [List.mem_cons, Part.run.injEq, reduceCtorEq, List.not_mem_nil, or_false,
      false_or] at hmem
    omega
  exact ⟨hruns, (residue_iff _).2 hruns⟩

/-- A run of four that ends the italic leaves two. -/
example : stripAll "\x27\x27a\x27\x27\x27\x27b".toList = "a\x27\x27b".toList := by
  decide

end WikiText.Emphasis
