import WikiText.Clean
import WikiText.Proofs.Text.Pattern
import WikiText.Proofs.Text.Trim
import WikiText.Proofs.Unicode.Normalization

/-!
# Openers of a text

The number of characters that may open a construct does not grow when a text is cut, when constructs
are replaced by texts with no more of them (`openers_replaceWith_le`), and when the text is tidied
(`openers_tidy_le`). A character reference may be decoded to such a character, but begins with one;
and normalization keeps their number, for the one composite among them is composed of another one
(`openers_nfc`).
-/

namespace WikiText

/-! ## Parts of a text -/

@[simp]
theorem openers_nil : openers [] = 0 :=
  rfl

/-- A character in front counts if it is an opener. -/
theorem openers_cons (c : Char) (text : Text) :
    openers (c :: text) = openers text + if isOpener c then 1 else 0 :=
  List.countP_cons

@[simp]
theorem openers_append (text rest : Text) : openers (text ++ rest) = openers text + openers rest :=
  List.countP_append

/-- The openers of a character and of the text behind it add up. -/
theorem openers_cons_eq (c : Char) (text : Text) :
    openers (c :: text) = openers [c] + openers text :=
  openers_append [c] text

@[simp]
theorem openers_reverse (text : Text) : openers text.reverse = openers text :=
  List.countP_reverse

/-- What is left out of a text adds no openers. -/
theorem openers_le_of_sublist {part text : Text} (h : part.Sublist text) :
    openers part ≤ openers text :=
  h.countP_le

/-- A tail has no more openers. -/
theorem openers_le_of_suffix {rest text : Text} (h : rest <:+ text) : openers rest ≤ openers text :=
  openers_le_of_sublist h.sublist

/-- A character in front takes no opener away. -/
theorem openers_le_cons (c : Char) (text : Text) : openers text ≤ openers (c :: text) :=
  openers_le_of_sublist (List.sublist_cons_self c text)

/-- Any other character in front adds none. -/
theorem openers_cons_of_not {c : Char} (h : isOpener c = false) (text : Text) :
    openers (c :: text) = openers text := by
  rw [openers_cons, if_neg (by simp [h]), Nat.add_zero]

/-- An opener in front adds one. -/
theorem openers_cons_of_isOpener {c : Char} (h : isOpener c = true) (text : Text) :
    openers (c :: text) = openers text + 1 := by
  rw [openers_cons, if_pos h]

/-- Parts that are joined by a text without openers have those of the parts. -/
theorem openers_intercalate {separator : Text} (h : openers separator = 0) (parts : List Text) :
    openers (separator.intercalate parts) = openers parts.flatten := by
  induction parts with
  | nil => rfl
  | cons part parts ih =>
    cases parts with
    | nil => simp
    | cons next parts =>
      have hparts : openers (part :: next :: parts).flatten
          = openers part + openers (next :: parts).flatten := openers_append _ _
      rw [List.intercalate_cons_cons, openers_append, openers_append, h, ih, hparts]
      omega

namespace Text

/-- A text without its white space in front is a tail. -/
theorem trimStart_suffix (text : Text) : trimStart text <:+ text :=
  List.dropWhile_suffix _

/-- A text without its end is written in the text. -/
theorem dropWhileEnd_sublist (p : Char → Bool) (text : Text) :
    (dropWhileEnd p text).Sublist text := by
  rw [dropWhileEnd_eq_rdropWhile]
  exact (List.rdropWhile_prefix _ _).sublist

/-- A text without white space at its end is written in the text. -/
theorem trimEnd_sublist (text : Text) : (trimEnd text).Sublist text :=
  dropWhileEnd_sublist _ text

/-- A trimmed text is written in the text. -/
theorem trim_sublist (text : Text) : (trim text).Sublist text :=
  (trimEnd_sublist _).trans (trimStart_suffix text).sublist

/-- Pieces are made of the characters that do not cut. -/
theorem flatten_split_sublist (p : Char → Bool) (text : Text) :
    (split p text).flatten.Sublist text := by
  induction text with
  | nil => exact List.Sublist.refl _
  | cons c rest ih =>
    unfold split
    split
    · exact ih.cons c
    · split
      · next hnil =>
        rw [hnil] at ih
        exact List.Sublist.cons_cons c (List.nil_sublist rest)
      · next piece pieces hsplit =>
        rw [hsplit] at ih
        exact List.Sublist.cons_cons c ih

end Text

/-- Trimming adds no openers. -/
theorem openers_trim_le (text : Text) : openers text.trim ≤ openers text :=
  openers_le_of_sublist (Text.trim_sublist text)

/-- A run that is written as one space loses its openers, if it had any. -/
theorem openers_squeeze_le (p : Char → Bool) (text : Text) :
    openers (Text.squeeze p text) ≤ openers text := by
  induction text with
  | nil => exact Nat.le_refl _
  | cons c rest ih =>
    have hkeep := openers_cons c rest
    have hspace : openers (' ' :: Text.squeeze p rest) = openers (Text.squeeze p rest) :=
      openers_cons_of_not rfl _
    unfold Text.squeeze
    split
    · split
      · omega
      · omega
    · rw [openers_cons, hkeep]
      omega

/-! ## Constructs of a text -/

namespace Pattern

variable {α ε : Type} {pattern : Pattern α}

/-- Replacing constructs does not add openers if none of them is replaced by more than it holds, up to
what follows it. -/
theorem openers_replaceWith_le {replacement : α → Text}
    (h : ∀ tail value rest, pattern.body.run tail = some (value, rest) →
      openers (replacement value) + openers rest ≤ openers (pattern.opening :: tail))
    (text : Text) : openers (pattern.replaceWith replacement text) ≤ openers text := by
  induction text using pieces.induct pattern with
  | case1 => simp [replaceWith_nil]
  | case2 tail value rest hsome ih =>
    have hvalue := h tail value rest hsome
    rw [replaceWith_cons_of_some hsome, openers_append]
    omega
  | case3 tail hnone ih =>
    rw [replaceWith_cons_of_none hnone, openers_cons, openers_cons]
    omega
  | case4 c tail hc ih =>
    rw [replaceWith_cons_of_ne hc, openers_cons, openers_cons]
    omega

/-- A construct may be replaced by any text with no more openers than its first character. -/
theorem openers_replace_le {replacement : Text} (h : openers replacement ≤ openers [pattern.opening])
    (text : Text) : openers (pattern.replace replacement text) ≤ openers text := by
  refine openers_replaceWith_le (fun tail value rest hrun => ?_) text
  have hrest := openers_le_of_suffix (pattern.body.suffix hrun)
  rw [openers_cons_eq]
  omega

/-- Removing what matches a pattern adds no openers. -/
theorem openers_remove_le (pattern : Pattern α) (text : Text) :
    openers (pattern.remove text) ≤ openers text :=
  openers_replace_le (Nat.zero_le _) text

end Pattern

/-! ## Tidying -/

namespace Unicode

/-- The code points of openers. -/
def openerCodes : List Nat :=
  [0x3C, 0x5B, 0x26, 0x5C, 0x226E]

/-- Openers are known by their code points. -/
theorem isOpener_eq (c : Char) : isOpener c = openerCodes.contains c.toNat := by
  have hcodes : openerCodes = ['<', '[', '&', '\\', '\u226e'].map Char.toNat := rfl
  rw [isOpener, hcodes, Bool.eq_iff_iff, List.contains_iff_mem, List.contains_iff_mem]
  exact (List.mem_map_of_injective fun _ _ h => Char.toNat_inj.mp h).symm

/-- The openers among code points. -/
theorem openers_map_ofNat {codes : List Nat} (h : ∀ n ∈ codes, (Char.ofNat n).toNat = n) :
    openers (codes.map Char.ofNat) = codes.countP openerCodes.contains := by
  rw [openers, List.countP_map]
  refine List.countP_congr fun n hn => ?_
  rw [Function.comp_apply, isOpener_eq, h n hn]

/-- A character decomposes into as many openers as it is. -/
theorem openers_decomposition (c : Char) : openers (decomposition c) = openers [c] := by
  have hentries : (entries.all fun entry => entry.2.countP openerCodes.contains
      == [entry.1].countP openerCodes.contains) = true := by decide +kernel
  have hcount : openers [c] = [c.toNat].countP openerCodes.contains := by
    rw [← openers_map_ofNat (by simp)]
    simp
  rw [hcount, decomposition_eq]
  rcases decomposed_cases c.toNat with hentry | hparts | halone
  · rw [openers_map_ofNat fun n hn => toNat_ofNat_of_beside
      (beside_of_mem (List.mem_append_left _ (List.mem_flatMap.mpr ⟨_, hentry, hn⟩)))]
    exact eq_of_beq (List.all_eq_true.mp hentries _ hentry)
  · -- neither the parts of a syllable nor the syllable itself is an opener
    have hjamo : (jamo.all fun n => !openerCodes.contains n) = true := by decide +kernel
    have hopeners : (openerCodes.all fun n => (decomposed n).any openerCodes.contains) = true := by
      decide +kernel
    have hnone : ∀ n ∈ decomposed c.toNat, ¬ openerCodes.contains n = true := by
      intro n hn
      simpa using List.all_eq_true.mp hjamo n (hparts n hn)
    have hself : ¬ openerCodes.contains c.toNat = true := by
      intro hmem
      obtain ⟨n, hn, hopener⟩ := List.any_eq_true.mp
        (List.all_eq_true.mp hopeners _ (List.contains_iff_mem.mp hmem))
      exact hnone n hn hopener
    rw [openers_map_ofNat fun n hn => toNat_ofNat_of_beside
      (beside_of_mem (List.mem_append_right _ (hparts n hn))), List.countP_eq_zero.mpr hnone,
      List.countP_singleton, if_neg hself]
  · rw [halone, openers_map_ofNat (by simp)]

/-- Decomposition keeps the number of openers. -/
theorem openers_decompose (text : Text) : openers (decompose text) = openers text := by
  induction text with
  | nil => rfl
  | cons c rest ih =>
    rw [decompose_cons, openers_append, openers_decomposition, ih, openers_cons_eq c rest]

/-- Where a mark is inserted does not matter. -/
theorem openers_insertMark (c : Char) (text : Text) :
    openers (insertMark c text) = openers (c :: text) := by
  induction text with
  | nil => rfl
  | cons d rest ih =>
    unfold insertMark
    split
    · rw [openers_cons, ih, openers_cons, openers_cons, openers_cons]
      omega
    · rfl

/-- Ordering marks keeps the number of openers. -/
theorem openers_orderMarks (text : Text) : openers (orderMarks text) = openers text := by
  induction text with
  | nil => rfl
  | cons c rest ih => rw [orderMarks_cons, openers_insertMark, openers_cons, openers_cons, ih]

/-- Normalization keeps the number of openers: a text and its normalized text decompose to the
same. -/
theorem openers_nfc (text : Text) : openers (nfc text) = openers text := by
  -- composition is not counted pair by pair: what it gives decomposes to what it was given
  have hordered := ordered_orderMarks (decompose text)
  have hdecomposed := decomposed_orderMarks (decomposed_decompose text)
  calc openers (nfc text)
      = openers (orderMarks (decompose (nfc text))) := by
        rw [openers_orderMarks, openers_decompose]
    _ = openers (orderMarks (decompose text)) := by
        rw [nfc, orderMarks_decompose_compose hordered hdecomposed]
    _ = openers text := by rw [openers_orderMarks, openers_decompose]

end Unicode

namespace Tidy

/-- A text with its lines closed is written in the text. -/
theorem closeLines_sublist (text : Text) : (closeLines text).Sublist text := by
  induction text with
  | nil => exact List.Sublist.refl _
  | cons c rest ih =>
    unfold closeLines
    split
    · next hc =>
      split
      · exact ih.cons c
      · rw [hc]
        exact ih.cons_cons _
    · split
      · next hc =>
        split
        · next kept hkept =>
          rw [hkept] at ih
          exact ih.cons c
        · rw [hc]
          exact ih.cons_cons _
      · exact ih.cons_cons c

/-- Characters that become spaces are no openers. -/
theorem openers_map_breakable (text : Text) : openers (text.map breakable) = openers text := by
  rw [openers, List.countP_map]
  refine List.countP_congr fun c _ => ?_
  rw [Function.comp_apply, breakable]
  split
  · next hc =>
    subst hc
    decide
  · exact Iff.rfl

/-- Tidying does not add openers: a reference that is decoded begins with one. -/
theorem openers_tidy_le (options : Options) (text : Text) :
    openers (tidy options text) ≤ openers text := by
  have hdecode : openers (Entity.decode text) ≤ openers text := by
    refine Pattern.openers_replaceWith_le (fun tail c rest hrun => ?_) text
    -- the character may be any, but the ampersand of the reference is gone
    have hone : openers [c] ≤ 1 := List.countP_le_length
    have hrest := openers_le_of_suffix (Entity.pattern.body.suffix hrun)
    have hopening : openers (Entity.pattern.opening :: tail) = openers tail + 1 :=
      openers_cons_of_isOpener rfl tail
    omega
  have hreduce (text : Text) : openers (reduceSpace text) ≤ openers text :=
    calc openers (reduceSpace text)
        ≤ openers (Text.squeeze isHorizontal ((text.map breakable).filter (!isInvisible ·))) :=
          openers_le_of_sublist (closeLines_sublist _)
      _ ≤ openers ((text.map breakable).filter (!isInvisible ·)) := openers_squeeze_le _ _
      _ ≤ openers (text.map breakable) := openers_le_of_sublist List.filter_sublist
      _ = openers text := openers_map_breakable text
  have htighten : openers (Ellipsis.tighten (reduceSpace (Entity.decode text))) ≤ openers text :=
    (Pattern.openers_replace_le (by decide) _).trans ((hreduce _).trans hdecode)
  rw [tidy, Unicode.openers_nfc]
  split
  · exact htighten
  · exact (openers_trim_le _).trans htighten

end Tidy

end WikiText
