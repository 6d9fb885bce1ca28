import WikiText.Proofs.Clean.Plain
import WikiText.Proofs.Emphasis

/-!
# Cleaning line by line

The results for the lines of a text are put together one after the other. Putting together is associative, and
the result for a line of which nothing is left and nothing noted is neutral before others (`joined_assoc`,
`pure_joined`), so a text may be cut at any newline, and cleaned part by part (`cleanLines_append`). Only a
carriage return before the newline is read with it.
-/

namespace WikiText

namespace Text

/-! ## Lines -/

/-- A text without newlines is one line, or none if it is empty. -/
theorem lines_line {line : Text} (h : '\n' ∉ line) : lines line = [line].filter (!·.isEmpty) := by
  rw [lines, split_line h]
  cases line <;> rfl

/-- The first line ends before the first newline. -/
theorem lines_line_append {line : Text} (h : '\n' ∉ line) (rest : Text) :
    lines (line ++ '\n' :: rest) = withoutReturn line :: lines rest := by
  obtain ⟨piece, pieces, hrest⟩ := exists_split (· == '\n') rest
  simp [lines, split_line_append h, hrest]

/-- A line without a carriage return at its end stays as it is. -/
theorem withoutReturn_eq {line : Text} (h : line.getLast? ≠ some '\r') : withoutReturn line = line :=
  if_neg h

/-- A text that is cut at a newline has the lines of both parts, and an empty one between them if no line
goes up to this newline. -/
theorem exists_lines_append {text : Text} (h : text.getLast? ≠ some '\r') (rest : Text) :
    ∃ blank, (∀ line ∈ blank, line = []) ∧
      lines (text ++ '\n' :: rest) = lines text ++ (blank ++ lines rest) := by
  induction text using line_induction with
  | last line hline =>
    rw [lines_line_append hline, lines_line hline, withoutReturn_eq h]
    -- an empty text has no line, but the newline behind it ends one
    by_cases hempty : line = []
    · subst hempty
      exact ⟨[[]], fun line hmem => List.mem_singleton.mp hmem, rfl⟩
    · exact ⟨[], fun line hmem => absurd hmem List.not_mem_nil, by simp [hempty]⟩
  | more line later hline ih =>
    have hlater : later.getLast? ≠ some '\r' := by
      intro hlast
      exact h (by simp [List.getLast?_append, List.getLast?_cons, hlast])
    obtain ⟨blank, hblank, hlines⟩ := ih hlater
    refine ⟨blank, hblank, ?_⟩
    rw [List.append_assoc, List.cons_append, lines_line_append hline, lines_line_append hline, hlines,
      List.cons_append]

end Text

/-! ## Results one after the other -/

/-- Two results one after the other: both texts with a newline between them, or the one of them that is not
empty, and what was noted on the way to the first and to the second. -/
def joined {ε : Type} (first second : Traced ε Text) : Traced ε Text where
  value :=
    if first.value = [] then second.value
    else if second.value = [] then first.value
    else first.value ++ '\n' :: second.value
  trace := first.trace ++ second.trace

section

variable {ε : Type} (first second third : Traced ε Text)

/-- Before other results, the result of an empty line changes nothing. -/
theorem pure_joined : joined (pure []) first = first :=
  rfl

/-- It does not matter which results are put together first. -/
theorem joined_assoc : joined (joined first second) third = joined first (joined second third) := by
  refine Traced.ext ?_ (List.append_assoc _ _ _)
  by_cases hfirst : first.value = [] <;> by_cases hsecond : second.value = [] <;>
    by_cases hthird : third.value = [] <;> simp [joined, hfirst, hsecond, hthird]

/-- The results of appended lists are put together part by part. -/
theorem foldr_joined_append (results others : List (Traced ε Text)) :
    (results ++ others).foldr joined (pure [])
      = joined (results.foldr joined (pure [])) (others.foldr joined (pure [])) := by
  induction results with
  | nil => rfl
  | cons result results ih => rw [List.cons_append, List.foldr_cons, ih, List.foldr_cons, joined_assoc]

/-- Results one after the other have their texts with newlines between them, where no text is empty. -/
theorem foldr_joined_eq (results : List (Traced ε Text)) :
    results.foldr joined (pure [])
      = ⟨['\n'].intercalate ((results.map Traced.value).filter (!·.isEmpty)),
          results.flatMap Traced.trace⟩ := by
  induction results with
  | nil => rfl
  | cons result results ih =>
    rw [List.foldr_cons, ih, List.map_cons, List.flatMap_cons]
    refine Traced.ext ?_ rfl
    by_cases hresult : result.value = []
    · simp [joined, hresult]
    · have hkept : (result.value :: results.map Traced.value).filter (!·.isEmpty)
          = result.value :: (results.map Traced.value).filter (!·.isEmpty) :=
        List.filter_cons_of_pos (by simp [hresult])
      rw [hkept]
      cases hothers : (results.map Traced.value).filter (!·.isEmpty) with
      | nil => simp [joined, hresult]
      | cons text texts =>
        -- what is put together of texts that are not empty is not empty
        have htext : text ≠ [] := by
          have hmem : text ∈ (results.map Traced.value).filter (!·.isEmpty) :=
            hothers ▸ List.mem_cons_self
          simpa using (List.mem_filter.mp hmem).2
        have hjoined : ['\n'].intercalate (text :: texts) ≠ [] := by
          cases texts <;> simp [List.intercalate_cons_cons, htext]
        simp [joined, hresult, hjoined, List.intercalate_cons_cons]

end

variable (namespaces : Namespaces) (options : Options)

/-- An empty text is plain. -/
theorem clean_nil : clean namespaces options [] = pure [] := by
  have h : Plain [] := by
    constructor
    case normalized => decide
    case trimmed => exact Text.trimmed_trim []
    all_goals simp
  exact h.cleanWith_eq id namespaces _ options

/-- Cleaning line by line puts the results of the lines together. -/
theorem cleanLines_eq (text : Text) :
    cleanLines namespaces options text
      = (text.lines.map (clean namespaces options)).foldr joined (pure []) := by
  rw [foldr_joined_eq, List.map_map, List.flatMap_map]
  refine Traced.ext ?_ ?_
  · rw [cleanLines, Traced.value_bind, Traced.value_traverse]
    rfl
  · rw [cleanLines, Traced.trace_bind, Traced.trace_traverse]
    exact List.append_nil _

/-- Of empty lines nothing is left, and nothing is noted about them. -/
theorem cleanLines_blank {blank : List Text} (h : ∀ line ∈ blank, line = []) :
    (blank.map (clean namespaces options)).foldr joined (pure []) = pure [] := by
  induction blank with
  | nil => rfl
  | cons line blank ih =>
    rw [List.map_cons, List.foldr_cons, h line List.mem_cons_self, clean_nil, pure_joined]
    exact ih fun other hmem => h other (List.mem_cons_of_mem _ hmem)

/-- **A text is cleaned line by line wherever it is cut.** What is left of two parts with a newline between them
is what is left of the first, a newline, and what is left of the second, or the one of them that is not empty;
and the diagnostics are those of the first and then those of the second. -/
theorem cleanLines_append {text : Text} (h : text.getLast? ≠ some '\r') (rest : Text) :
    cleanLines namespaces options (text ++ '\n' :: rest)
        = joined (cleanLines namespaces options text) (cleanLines namespaces options rest) ∧
      Event.diagnostics (cleanLines namespaces options (text ++ '\n' :: rest)).trace
        = Event.diagnostics (cleanLines namespaces options text).trace
          ++ Event.diagnostics (cleanLines namespaces options rest).trace := by
  have hjoined : cleanLines namespaces options (text ++ '\n' :: rest)
      = joined (cleanLines namespaces options text) (cleanLines namespaces options rest) := by
    obtain ⟨blank, hblank, hlines⟩ := Text.exists_lines_append h rest
    simp only [cleanLines_eq, hlines, List.map_append, foldr_joined_append,
      cleanLines_blank namespaces options hblank, pure_joined]
  refine ⟨hjoined, ?_⟩
  rw [hjoined]
  exact List.filterMap_append

/-- A line with a return before its newline and one of which nothing is left. -/
def upperLines : Text :=
  "\x27\x27a\x27\x27\r\n[[Category:b]]".toList

/-- An empty line and one with a formula that cannot be interpreted. -/
def lowerLines : Text :=
  "\n<math>\\frac</math>".toList

/-- A text cut between a line and a line with a fraction, about which one diagnostic is noted. -/
theorem cleanLines_append_lines :
    upperLines.getLast? ≠ some '\r' ∧
      (cleanLines .canonical .plain (upperLines ++ '\n' :: lowerLines)).value = "a\n\\frac".toList ∧
      (Event.diagnostics (cleanLines .canonical .plain (upperLines ++ '\n' :: lowerLines)).trace).length
        = 1 := by
  have hlast : upperLines.getLast? ≠ some '\r' := by decide
  have hupper : cleanLines .canonical .plain upperLines = ⟨['a'], [.namesNeeded 2 1]⟩ := by
    decide +kernel
  have hlower : (cleanLines .canonical .plain lowerLines).value = "\\frac".toList ∧
      (Event.diagnostics (cleanLines .canonical .plain lowerLines).trace).length = 1 := by
    decide +kernel
  obtain ⟨hjoined, hdiagnostics⟩ := cleanLines_append .canonical .plain hlast lowerLines
  refine ⟨hlast, ?_, ?_⟩
  · rw [hjoined, hupper]
    simp [joined, hlower.1]
  · rw [hdiagnostics, hupper, List.length_append, hlower.2]
    rfl

/-- A carriage return goes with the newline behind it, and without one it is white space. -/
example :
    (cleanLines .canonical .spaced "a\r\n".toList).value = "a".toList ∧
      (cleanLines .canonical .spaced "a\r".toList).value = "a ".toList := by
  decide +kernel

end WikiText
