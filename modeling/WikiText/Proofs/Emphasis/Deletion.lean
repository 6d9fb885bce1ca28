import WikiText.Proofs.Emphasis.Residue

/-!
# What is deleted from a text

`Unmarked` says of two texts that the second one is the first without two, three or five apostrophes of
each run of two or more. A line without its markers is so related to the line whatever is open at its
beginning (`unmarked_strip`), and lines are related one by one, since a newline ends every run
(`Unmarked.append`).
-/

namespace WikiText.Emphasis

variable {text after left : Text}

/-- `Unmarked text left` says that `left` is `text` without two, three or five apostrophes of each
longest run of two or more: five of those that are long enough. Every other character stays. -/
inductive Unmarked : Text → Text → Prop where
  /-- The end of the text. -/
  | nil : Unmarked [] []
  /-- A character other than an apostrophe. -/
  | char {c : Char} {text left : Text} (other : c ≠ '\x27') (behind : Unmarked text left) :
    Unmarked (c :: text) (c :: left)
  /-- A single apostrophe. -/
  | single {text left : Text} (ends : text.head? ≠ some '\x27') (behind : Unmarked text left) :
    Unmarked ('\x27' :: text) ('\x27' :: left)
  /-- A longer run. -/
  | run {length markers : ℕ} {text left : Text} (ends : text.head? ≠ some '\x27')
    (known : markers = 2 ∨ markers = 3 ∨ markers = 5) (fits : markers ≤ length)
    (five : 5 ≤ length → markers = 5) (behind : Unmarked text left) :
    Unmarked (List.replicate length '\x27' ++ text)
      (List.replicate (length - markers) '\x27' ++ left)

namespace Unmarked

/-- Texts that no run joins are related one by one. -/
theorem append {leftAfter : Text} (h : Unmarked text left) (hafter : Unmarked after leftAfter)
    (hends : after.head? ≠ some '\x27') : Unmarked (text ++ after) (left ++ leftAfter) := by
  have hhead : ∀ {rest : Text}, rest.head? ≠ some '\x27' → (rest ++ after).head? ≠ some '\x27' := by
    intro rest hrest
    cases rest with
    | nil => exact hends
    | cons c rest => exact hrest
  induction h with
  | nil => exact hafter
  | char other behind ih => exact .char other ih
  | single ends behind ih => exact .single (hhead ends) ih
  | run ends known fits five behind ih =>
    rw [List.append_assoc, List.append_assoc]
    exact .run (hhead ends) known fits five ih

/-- All other characters stay, in order. -/
theorem filter_eq (h : Unmarked text left) :
    left.filter (· ≠ '\x27') = text.filter (· ≠ '\x27') := by
  have hrun : ∀ length, (List.replicate length '\x27').filter (· ≠ '\x27') = [] := by
    intro length
    rw [List.filter_replicate_of_neg (by simp)]
  induction h with
  | nil => rfl
  | char other behind ih => rw [List.filter_cons, List.filter_cons, ih]
  | single ends behind ih => rw [List.filter_cons, List.filter_cons, ih]
  | run ends known fits five behind ih =>
    rw [List.filter_append, List.filter_append, hrun, hrun, ih]

end Unmarked

/-- Two, three or five apostrophes of a run are markers. -/
theorem State.markers_known (state : State) (length : ℕ) (boldFollows : Bool) :
    ((state.advance length boldFollows).2 = 2 ∨ (state.advance length boldFollows).2 = 3 ∨
        (state.advance length boldFollows).2 = 5) ∧
      (5 ≤ length → (state.advance length boldFollows).2 = 5) := by
  rw [State.markers_eq]
  split_ifs <;> omega

/-- Whatever is open at its beginning, a text without its markers has lost nothing else. -/
theorem unmarked_strip (state : State) (text : Text) : Unmarked text (strip state (parts text)) := by
  induction text using run_induction generalizing state with
  | nil => exact .nil
  | char c rest hc ih =>
    rw [parts_cons_of_ne hc]
    exact .char hc (ih state)
  | run length rest hpos hrest ih =>
    rw [parts_run hpos hrest, strip_run, State.left]
    -- a run of one is no marker, and a longer one is at least as long as its markers
    split
    · next hshort =>
      obtain rfl : length = 1 := by omega
      exact .single hrest (ih _)
    · next hlong =>
      have hfits := state.markers_le (Nat.le_of_not_lt hlong) ((parts rest).any Part.switchesBold)
      obtain ⟨hknown, hfive⟩ :=
        state.markers_known length ((parts rest).any Part.switchesBold)
      exact .run hrest hknown hfits hfive (ih _)

/-- The lines before a newline are stripped apart from those behind it. -/
theorem stripAll_append_newline (text rest : Text) :
    stripAll (text ++ '\n' :: rest) = stripAll text ++ '\n' :: stripAll rest := by
  induction text using Text.line_induction with
  | last line hline => rw [stripAll_line_append hline, stripAll_line hline]
  | more line others hline ih =>
    rw [List.append_assoc, List.cons_append, stripAll_line_append hline, stripAll_line_append hline,
      ih, List.append_assoc]
    rfl

/-- What stripping leaves is the text without some of its markers. -/
theorem unmarked_stripAll (text : Text) : Unmarked text (stripAll text) := by
  induction text using Text.line_induction with
  | last line hline =>
    rw [stripAll_line hline]
    exact unmarked_strip .upright line
  | more line rest hline ih =>
    rw [stripAll_line_append hline]
    have hrest : Unmarked ('\n' :: rest) ('\n' :: stripAll rest) := .char (by decide) ih
    exact (unmarked_strip .upright line).append hrest (by simp)

/-- **Markers are taken out line by line, and nothing else.** A newline separates what is read before
and after it. A text without its markers is the text without two, three or five apostrophes of each run of
two or more, five of those of five or more, and all its other characters stay in order. -/
theorem stripAll_lines_unmarked :
    (∀ text rest, stripAll (text ++ '\n' :: rest) = stripAll text ++ '\n' :: stripAll rest) ∧
      ∀ text, Unmarked text (stripAll text) ∧
        (stripAll text).filter (· ≠ '\x27') = text.filter (· ≠ '\x27') :=
  ⟨stripAll_append_newline, fun text =>
    ⟨unmarked_stripAll text, (unmarked_stripAll text).filter_eq⟩⟩

end WikiText.Emphasis
