import WikiText.Html.Strip
import WikiText.Proofs.Text.Pattern

/-!
# Tags that come together

A pass takes all tags that it finds away, and what stood on both sides of them comes together. So an opening
bracket that began no tag may begin one afterwards, and only such brackets do (`holdsTag_remove_iff`,
`not_joins_zero`). Of these tags the second pass takes the closing ones, and leaves the others.

The passes change a text exactly as long as it holds a tag, and take an opening bracket away each time
(`count_stripTags_lt`). Repeated, they come to a text without tags.
-/

namespace WikiText.Html

open Scanner

/-! ## Tags as they are written -/

/-- What begins a tag, a comment or a declaration behind an opening bracket. -/
def BeginsTag (c : Char) : Prop :=
  c = '/' ∨ c = '!' ∨ c.isAlpha = true

/-- A tag, comment or declaration. -/
structure Tag where
  /-- The character behind the opening bracket. -/
  head : Char
  /-- What follows it, up to the closing bracket. -/
  inside : Text
  begins_head : BeginsTag head
  unended : '>' ∉ inside

/-- The text of a tag. -/
def Tag.source (tag : Tag) : Text :=
  '<' :: tag.head :: (tag.inside ++ ['>'])

/-- Whether a tag stands somewhere in a text. -/
def HoldsTag (text : Text) : Prop :=
  ∃ tag : Tag, tag.source <:+: text

/-- A tag goes on to the next closing bracket, wherever that is. -/
theorem holdsTag_iff {text : Text} :
    HoldsTag text ↔ ∃ front c back, text = front ++ '<' :: c :: back ∧ BeginsTag c ∧ '>' ∈ back := by
  constructor
  · rintro ⟨tag, front, back, rfl⟩
    refine ⟨front, tag.head, tag.inside ++ '>' :: back, ?_, tag.begins_head, by simp⟩
    simp [Tag.source]
  · rintro ⟨front, c, back, rfl, hc, hend⟩
    obtain ⟨inside, rest, rfl, hinside⟩ := List.eq_append_cons_of_mem hend
    refine ⟨⟨c, inside, hc, hinside⟩, front, rest, ?_⟩
    simp [Tag.source]

/-- What is read as a tag begins like one and has a closing angle bracket. -/
theorem run_anyTag_ne_none {tail : Text} :
    anyTag.body.run tail ≠ none ↔ ∃ c rest, tail = c :: rest ∧ BeginsTag c ∧ '>' ∈ rest := by
  constructor
  · intro hsome
    obtain ⟨⟨_, left⟩, hrun⟩ := Option.ne_none_iff_exists'.mp hsome
    obtain ⟨c, rest, hhead, hrun⟩ := exists_of_bind hrun
    obtain ⟨_, middle, hinside, hend⟩ := exists_of_bind hrun
    obtain ⟨hc, rfl⟩ := run_satisfy_eq_some.mp hhead
    refine ⟨c, rest, rfl, by simpa [BeginsTag, or_assoc] using hc, ?_⟩
    exact (Scanner.suffix _ hinside).subset (mem_of_run_one hend)
  · rintro ⟨c, rest, rfl, hc, hmem⟩
    obtain ⟨inside, left, rfl, hinside⟩ := List.eq_append_cons_of_mem hmem
    have hhead : (satisfy fun c => c = '/' || c = '!' || c.isAlpha).run (c :: (inside ++ '>' :: left))
        = some (c, inside ++ '>' :: left) :=
      run_satisfy_eq_some.mpr ⟨by simpa [BeginsTag, or_assoc] using hc, rfl⟩
    have hskip : (skipWhile (· ≠ '>')).run (inside ++ '>' :: left) = some ((), '>' :: left) :=
      run_skipWhile_append (fun d hd => decide_eq_true fun heq => hinside (heq ▸ hd)) (by simp)
    have hrun : anyTag.body.run (c :: (inside ++ '>' :: left)) = some ((), left) :=
      (run_bind_of_eq_some hhead).trans <| (run_bind_of_eq_some hskip).trans (run_one_self '>' left)
    rw [hrun]
    exact Option.some_ne_none _

/-- A text holds a tag exactly when the scanner finds one. -/
theorem occurs_anyTag {text : Text} : anyTag.occurs text = true ↔ HoldsTag text := by
  rw [Pattern.occurs_iff, holdsTag_iff]
  constructor
  · rintro ⟨tail, ⟨front, hfront⟩, hsome⟩
    obtain ⟨c, back, rfl, hc, hend⟩ := run_anyTag_ne_none.mp hsome
    exact ⟨front, c, back, hfront.symm, hc, hend⟩
  · rintro ⟨front, c, back, rfl, hc, hend⟩
    exact ⟨c :: back, List.suffix_append _ _, run_anyTag_ne_none.mpr ⟨c, back, rfl, hc, hend⟩⟩

/-- The pattern occurs in no text without tags. -/
theorem not_occurs_anyTag {text : Text} : anyTag.occurs text = false ↔ ¬ HoldsTag text := by
  rw [← Bool.not_eq_true, occurs_anyTag]

/-- A closing tag is a tag. -/
theorem holdsTag_of_anyClosingTag {text : Text} (h : anyClosingTag.occurs text = true) :
    HoldsTag text := by
  obtain ⟨tail, ⟨front, hfront⟩, hsome⟩ := Pattern.occurs_iff.mp h
  obtain ⟨⟨_, left⟩, hrun⟩ := Option.ne_none_iff_exists'.mp hsome
  obtain ⟨_, back, hslash, hrun⟩ := exists_of_bind hrun
  obtain ⟨_, middle, hinside, hend⟩ := exists_of_bind hrun
  obtain rfl := run_one_eq_some.mp hslash
  exact holdsTag_iff.mpr ⟨front, '/', back, hfront.symm, .inl rfl,
    (Scanner.suffix _ hinside).subset (mem_of_run_one hend)⟩

/-- A text without tags has no closing tags. -/
theorem not_occurs_anyClosingTag {text : Text} (h : ¬ HoldsTag text) :
    anyClosingTag.occurs text = false :=
  Bool.eq_false_iff.mpr (mt holdsTag_of_anyClosingTag h)

/-- A text in which the pattern does not occur is kept. -/
theorem stripTags_of_not_occurs {text : Text} (h : anyTag.occurs text = false) :
    stripTags text = text := by
  rw [stripTags, Pattern.remove_of_not_occurs h,
    Pattern.remove_of_not_occurs (not_occurs_anyClosingTag (not_occurs_anyTag.mp h))]

/-! ## What comes together -/

/-- In a text that was cut, an opening bracket comes before what begins a tag, with a closing bracket
behind it, once the constructs between them are gone. -/
def Joins (gone : ℕ) (pieces : List (Piece Unit)) : Prop :=
  ∃ front c back, pieces = front ++ .plain '<' :: (List.replicate gone (.found ()) ++ .plain c :: back) ∧
    BeginsTag c ∧ .plain '>' ∈ back

/-- The next character that was kept comes after constructs that are gone. -/
theorem exists_replicate_of_plainText_eq {pieces : List (Piece Unit)} {c : Char} {back : Text}
    (h : Pattern.plainText pieces = c :: back) :
    ∃ gone after, pieces = List.replicate gone (.found ()) ++ .plain c :: after ∧
      Pattern.plainText after = back := by
  induction pieces with
  | nil => cases h
  | cons piece pieces ih =>
    cases piece with
    | plain d =>
      obtain ⟨rfl, hback⟩ := List.cons.inj h
      exact ⟨0, pieces, rfl, hback⟩
    | found value =>
      obtain ⟨gone, after, rfl, hafter⟩ := ih h
      exact ⟨gone + 1, after, rfl, hafter⟩

/-- What a pass leaves holds a tag exactly if something comes together. -/
theorem holdsTag_remove_iff {pattern : Pattern Unit} {text : Text} :
    HoldsTag (pattern.remove text) ↔ ∃ gone, Joins gone (pattern.pieces text) := by
  rw [Pattern.remove_eq, holdsTag_iff]
  constructor
  · rintro ⟨front, c, back, hplain, hc, hend⟩
    obtain ⟨before, behind, hpieces, hbehind⟩ := Pattern.exists_of_plainText_eq hplain
    obtain ⟨gone, after, rfl, rfl⟩ := exists_replicate_of_plainText_eq hbehind
    exact ⟨gone, before, c, after, hpieces, hc, Pattern.mem_plainText.mp hend⟩
  · rintro ⟨gone, before, c, after, hpieces, hc, hend⟩
    refine ⟨Pattern.plainText before, c, Pattern.plainText after, ?_, hc, Pattern.mem_plainText.mpr hend⟩
    rw [hpieces]
    simp [Pattern.plainText, Piece.write]

/-- What stands side by side before the first pass is no tag after it. -/
theorem not_joins_zero (text : Text) : ¬ Joins 0 (anyTag.pieces text) := by
  rintro ⟨front, c, back, hpieces, hc, hend⟩
  obtain ⟨rest, -, hrest⟩ := Pattern.exists_of_pieces_eq hpieces
  obtain ⟨tail, -, hnone, htail⟩ := Pattern.exists_of_pieces_plain hrest
  obtain ⟨left, rfl, -, rfl⟩ := Pattern.exists_of_pieces_plain htail
  have hclosed : '>' ∈ left := by
    apply Pattern.remove_subset anyTag left
    rw [Pattern.remove_eq]
    exact Pattern.mem_plainText.mpr hend
  exact run_anyTag_ne_none.mpr ⟨c, left, rfl, hc, hclosed⟩ (hnone rfl)

/-- Where something comes together, a tag stood directly behind an opening bracket that began none. -/
theorem pair_infix_of_joins {gone : ℕ} {text : Text} (hpos : 0 < gone)
    (h : Joins gone (anyTag.pieces text)) : ['<', '<'] <:+: text := by
  obtain ⟨front, c, back, hpieces, -, -⟩ := h
  obtain ⟨more, rfl⟩ := Nat.exists_eq_succ_of_ne_zero hpos.ne'
  obtain ⟨rest, hsuffix, hrest⟩ := Pattern.exists_of_pieces_eq hpieces
  obtain ⟨tail, rfl, -, htail⟩ := Pattern.exists_of_pieces_plain hrest
  obtain ⟨left, _, rfl, -, -⟩ := Pattern.exists_of_pieces_found htail
  exact List.IsInfix.trans ⟨[], left, rfl⟩ hsuffix.isInfix

/-! ## The two passes -/

/-- If a text holds a tag, the passes take an opening bracket away. -/
theorem count_stripTags_lt {text : Text} (h : HoldsTag text) :
    (stripTags text).count '<' < text.count '<' := by
  have hclosing : (stripTags text).count '<' ≤ (anyTag.remove text).count '<' :=
    (Pattern.remove_sublist anyClosingTag _).count_le '<'
  exact Nat.lt_of_le_of_lt hclosing (Pattern.count_remove_lt (occurs_anyTag.mpr h))

/-- The texts that are kept as they are written are those without tags. -/
theorem stripTags_eq_self_iff {text : Text} : stripTags text = text ↔ ¬ HoldsTag text := by
  refine ⟨fun hsame hholds => ?_, fun hnone => stripTags_of_not_occurs (not_occurs_anyTag.mpr hnone)⟩
  have hless := count_stripTags_lt hholds
  rw [hsame] at hless
  exact Nat.lt_irrefl _ hless

/-- **Tags are removed, except for those that come together.** What is left holds a tag exactly if an opening
bracket and what begins a tag come together around closing tags of the second pass. That is so only if
something came together around tags of the first pass, for which two opening brackets have to stand side by
side. What is left stays as it is exactly if it holds no tag, and the repeated passes lead to such a text,
with no more repetitions than there are opening brackets. -/
theorem stripTags_tagless (text : Text) :
    (HoldsTag (stripTags text) ↔
      ∃ gone, Joins gone (anyClosingTag.pieces (anyTag.remove text))) ∧
    (HoldsTag (stripTags text) →
      ['<', '<'] <:+: text ∧ ∃ gone > 0, Joins gone (anyTag.pieces text)) ∧
    (stripTags (stripTags text) = stripTags text ↔ ¬ HoldsTag (stripTags text)) ∧
    ∃ passes ≤ text.count '<', ¬ HoldsTag (stripTags^[passes] text) := by
  refine ⟨holdsTag_remove_iff, fun hholds => ?_, stripTags_eq_self_iff, ?_⟩
  · have hfirst : HoldsTag (anyTag.remove text) := by
      by_contra hnone
      rw [stripTags, Pattern.remove_of_not_occurs (not_occurs_anyClosingTag hnone)] at hholds
      exact hnone hholds
    obtain ⟨gone, hjoins⟩ := holdsTag_remove_iff.mp hfirst
    have hpos : 0 < gone := by
      rcases Nat.eq_zero_or_pos gone with rfl | hpos
      · exact absurd hjoins (not_joins_zero text)
      · exact hpos
    exact ⟨pair_infix_of_joins hpos hjoins, gone, hpos, hjoins⟩
  · obtain ⟨passes, hle, hlast, -⟩ := exists_last_pass (List.count '<') (fun _ => count_stripTags_lt) text
    exact ⟨passes, hle, hlast⟩

/-- The inner tag goes, and what stands around it is a tag again. -/
theorem stripTags_nested :
    ¬ ∀ text, ¬ HoldsTag (stripTags text) ∧ stripTags (stripTags text) = stripTags text := by
  intro h
  have hresult : stripTags "<<b>b>x".toList = "<b>x".toList := by decide +kernel
  have hholds : HoldsTag "<b>x".toList := occurs_anyTag.mp (by decide +kernel)
  have hnone := (h "<<b>b>x".toList).1
  rw [hresult] at hnone
  exact hnone hholds

end WikiText.Html
