import Mathlib.Data.List.Flatten
import WikiText.Proofs.Clean.Passes
import WikiText.Proofs.Formula.Symbols
import WikiText.Proofs.Openers.Text
import WikiText.Proofs.Table

/-!
# Openers and the passes around links

The passes that look for one construct after the other take openers away or leave them: what they
write in the place of a construct is part of it, or a text without openers. The content of an element
and what follows the element share the openers behind its first character (`Html.openers_element`), so
the content has fewer than the text (`Html.openers_content_lt`).
-/

namespace WikiText

open Scanner

/-! ## Tables -/

namespace Table

/-- What stands between the delimiters of tables is kept or goes. -/
theorem openers_shown_le (outline : Outline) : openers outline.shown ≤ openers outline.text := by
  induction outline with
  | done => exact Nat.le_refl _
  | mark mark rest ih =>
    rw [Outline.shown, Outline.text, openers_append, openers_append]
    omega
  | table inside rest _ ih =>
    rw [Outline.shown, Outline.text, openers_cons_of_not rfl, openers_append]
    omega
  | unclosed inside ih =>
    rw [Outline.shown, Outline.text, openers_append, openers_append]
    omega

/-- Removing tables adds no openers. -/
theorem openers_removeAll_le (text : Text) : openers (removeAll text) ≤ openers text := by
  obtain ⟨outline, htext, hshown⟩ := exists_removeAll_eq text
  rw [hshown, ← htext]
  exact openers_shown_le outline

end Table

/-! ## Elements -/

namespace Html

/-- The content of an element and what follows the element share the openers. -/
theorem openers_element {name : String} {tail content rest : Text}
    (h : (element name).body.run tail = some (content, rest)) :
    openers content + openers rest ≤ openers tail := by
  obtain ⟨_, middle, hopen, hcontent⟩ := exists_of_bind h
  obtain ⟨_, place, rfl, hclose⟩ := exists_of_upToRun hcontent
  have htail := openers_le_of_suffix ((openTag name).suffix hopen)
  have hrest := openers_le_of_suffix ((closeTag name).suffix hclose)
  rw [openers_append] at htail
  omega

/-- The angle bracket of an element is an opener. -/
theorem openers_opening (name : String) (tail : Text) :
    openers ((element name).opening :: tail) = openers tail + 1 :=
  openers_cons_of_isOpener rfl tail

/-- The content of an element has fewer openers than a text in which the element stands. -/
theorem openers_content_lt {name : String} {tail content rest text : Text}
    (h : (element name).body.run tail = some (content, rest))
    (hsuffix : (element name).opening :: tail <:+ text) : openers content < openers text := by
  have hcontent := openers_element h
  have hopening := openers_opening name tail
  have htext := openers_le_of_suffix hsuffix
  omega

/-- An element may be replaced by any text with no more openers than its content. -/
theorem openers_replaceElement_le {name : String} {replacement : Text → Text}
    (h : ∀ content, openers (replacement content) ≤ openers content) (text : Text) :
    openers ((element name).replaceWith replacement text) ≤ openers text := by
  refine Pattern.openers_replaceWith_le (fun tail content rest hrun => ?_) text
  have hreplacement := h content
  have hcontent := openers_element hrun
  have hopening := openers_opening name tail
  omega

/-- Unwrapping spans adds no openers. -/
theorem openers_unwrapSpans_le (text : Text) : openers (unwrapSpans text) ≤ openers text :=
  openers_replaceElement_le (fun content =>
    (openers_squeeze_le _ _).trans (openers_le_of_sublist (Text.trimEnd_sublist content))) text

/-! ## Line breaks and boxes -/

/-- Stretches are made of the plain characters. -/
theorem flatten_stretches {α : Type} (pieces : List (Piece α)) :
    (Pattern.stretches pieces).flatten = pieces.flatMap (Piece.write fun _ => []) := by
  induction pieces with
  | nil => rfl
  | cons piece pieces ih =>
    cases piece with
    | plain c =>
      rw [List.flatMap_cons, ← ih, Pattern.stretches]
      split
      · next hnil => rw [hnil]; rfl
      · next first others hcons => rw [hcons]; rfl
    | found value =>
      rw [List.flatMap_cons, ← ih]
      rfl

/-- Joining lines adds no openers. -/
theorem openers_joinLines_le (stretches : List Text) :
    openers (joinLines stretches) ≤ openers stretches.flatten := by
  fun_induction joinLines stretches with
  | case1 => exact Nat.le_refl _
  | case2 last => simp
  | case3 stretch rest _ ih =>
    have hstretch := openers_le_of_sublist (Text.trimEnd_sublist stretch)
    rw [openers_append, openers_cons_of_not rfl, List.flatten_cons, openers_append]
    omega

/-- Line breaks have no openers. -/
theorem openers_convertLineBreaks_le (text : Text) :
    openers (convertLineBreaks text) ≤ openers text :=
  calc openers (convertLineBreaks text)
      ≤ openers (Pattern.stretches (lineBreak.pieces text)).flatten := openers_joinLines_le _
    _ = openers (lineBreak.remove text) := by
      rw [flatten_stretches, Pattern.remove, Pattern.replace, Pattern.replaceWith_eq]
    _ ≤ openers text := Pattern.openers_remove_le _ _

/-- The pieces of a text are the text when the tags in them are written out. -/
theorem replaceWith_source (text : Text) : divTag.replaceWith DivTag.source text = text := by
  have hsource : ∀ tail tag rest, divTag.body.run tail = some (tag, rest) →
      tag.source ++ rest = '<' :: tail := by
    intro tail tag rest hrun
    obtain ⟨⟨make, source⟩, middle, hread, hpure⟩ := exists_of_bind hrun
    obtain ⟨⟨read, left⟩, hscan, hpair⟩ := Option.map_eq_some_iff.mp hread
    cases hpair
    cases hpure
    -- both kinds of tags keep what was read up to the rest as their source
    have hsplit := List.suffix_iff_eq_append.mp (Scanner.suffix _ hscan)
    rcases exists_of_orElse hscan with hread | hread
    · obtain ⟨_, _, -, hpure⟩ := exists_of_bind hread
      cases hpure
      exact congrArg ('<' :: ·) hsplit
    · obtain ⟨_, _, -, hread⟩ := exists_of_bind hread
      obtain ⟨_, _, -, hread⟩ := exists_of_bind hread
      obtain ⟨_, _, -, hread⟩ := exists_of_bind hread
      obtain ⟨_, _, -, hpure⟩ := exists_of_bind hread
      cases hpure
      exact congrArg ('<' :: ·) hsplit
  induction text using Pattern.pieces.induct divTag with
  | case1 => exact Pattern.replaceWith_nil _ _
  | case2 tail tag rest hsome ih =>
    rw [Pattern.replaceWith_cons_of_some hsome, ih]
    exact hsource tail tag rest hsome
  | case3 tail hnone ih => rw [Pattern.replaceWith_cons_of_none hnone, ih]
  | case4 c tail hc ih => rw [Pattern.replaceWith_cons_of_ne hc, ih]

/-- What is left of the pieces is written in them. -/
theorem pruneFloating_sublist (pieces : List (Piece DivTag)) :
    (pruneFloating pieces).Sublist (pieces.flatMap (Piece.write DivTag.source)) := by
  fun_induction pruneFloating pieces with
  | case1 => exact List.Sublist.refl _
  | case2 c rest ih => exact ih.cons_cons c
  | case3 rest source ih => exact (List.Sublist.refl _).append ih
  | case4 rest source _ after hafter ih =>
    -- the box goes, and with it all pieces up to its closing tag
    have hrest := (afterClose_suffix hafter).sublist.flatMap (Piece.write DivTag.source)
    exact (ih.trans hrest).trans (List.sublist_append_right source _)
  | case5 rest source _ _ ih => exact (List.Sublist.refl _).append ih
  | case6 rest source _ ih => exact (List.Sublist.refl _).append ih

/-- What is left without floating elements is written in the text. -/
theorem removeFloating_sublist (text : Text) : (removeFloating text).Sublist text := by
  have hprune := pruneFloating_sublist (divTag.pieces text)
  rw [← Pattern.replaceWith_eq, replaceWith_source] at hprune
  exact hprune

end Html

/-! ## Layout -/

/-- Removing layout adds no openers. -/
theorem openers_removeLayout_le (text : Text) : openers (removeLayout text) ≤ openers text := by
  have hreferences (text : Text) : openers (Html.removeReferences text) ≤ openers text :=
    (Pattern.openers_remove_le _ _).trans (Pattern.openers_remove_le _ _)
  have hnotices (text : Text) : openers (Html.removeNotices text) ≤ openers text :=
    (Pattern.openers_remove_le _ _).trans (Pattern.openers_remove_le _ _)
  -- newlines in the place of tags are no openers
  have hlayout (text : Text) : openers (Html.convertLayout text) ≤ openers text :=
    calc openers (Html.convertLayout text)
        ≤ openers (Html.definitionTag.replace ['\n'] (Html.blockTag.replace ['\n'] text)) :=
          Pattern.openers_replace_le (by decide) _
      _ ≤ openers (Html.blockTag.replace ['\n'] text) := Pattern.openers_replace_le (by decide) _
      _ ≤ openers text := Pattern.openers_replace_le (by decide) _
  calc openers (removeLayout text)
      ≤ openers (Html.removeFloating (Html.convertLineBreaks (Html.unwrapSpans
          (Html.removeReferences (Table.removeAll (Html.nowiki.remove text)))))) :=
        (hlayout _).trans (hnotices _)
    _ ≤ openers (Html.convertLineBreaks (Html.unwrapSpans
          (Html.removeReferences (Table.removeAll (Html.nowiki.remove text))))) :=
        openers_le_of_sublist (Html.removeFloating_sublist _)
    _ ≤ openers (Html.unwrapSpans
          (Html.removeReferences (Table.removeAll (Html.nowiki.remove text)))) :=
        Html.openers_convertLineBreaks_le _
    _ ≤ openers (Html.removeReferences (Table.removeAll (Html.nowiki.remove text))) :=
        Html.openers_unwrapSpans_le _
    _ ≤ openers (Table.removeAll (Html.nowiki.remove text)) := hreferences _
    _ ≤ openers (Html.nowiki.remove text) := Table.openers_removeAll_le _
    _ ≤ openers text := Pattern.openers_remove_le _ _

/-- Stripping tags adds no openers. -/
theorem openers_stripTags_le (text : Text) : openers (Html.stripTags text) ≤ openers text :=
  (Pattern.openers_remove_le _ _).trans (Pattern.openers_remove_le _ _)

/-- Unbracketing ellipses and removing raised addresses and links to edit adds no openers. -/
theorem openers_removeMargin_le (text : Text) :
    openers (Link.removeMargin (Ellipsis.unbracket text)) ≤ openers text :=
  calc openers (Link.removeMargin (Ellipsis.unbracket text))
      ≤ openers (Ellipsis.unbracket text) :=
        (Pattern.openers_remove_le _ _).trans (Pattern.openers_remove_le _ _)
    _ ≤ openers text := Pattern.openers_replace_le (by decide) _

/-! ## Scripts -/

namespace Script

/-- The forms in a table of scripts have no openers. -/
theorem openers_flatten_forms {table : List (Char × String)}
    (htable : table = superscripts ∨ table = subscripts) {text : Text}
    {forms : List Text} (hforms : text.mapM (form? table) = some forms) :
    openers forms.flatten = 0 := by
  induction text generalizing forms with
  | nil =>
    cases hforms
    rfl
  | cons c rest ih =>
    rw [List.mapM_cons] at hforms
    obtain ⟨form, hform, hrest⟩ := Option.bind_eq_some_iff.mp hforms
    obtain ⟨others, hothers, hpure⟩ := Option.bind_eq_some_iff.mp hrest
    cases hpure
    rw [List.flatten_cons, openers_append, openers_form htable hform, ih hothers]

/-- A text that is written in forms or behind a marker has no more openers. -/
theorem openers_convert_le {table : List (Char × String)} {marker : Char}
    (htable : table = superscripts ∨ table = subscripts)
    (hmarker : isOpener marker = false) (text : Text) :
    openers (convert table marker text) ≤ openers text := by
  unfold convert
  split
  · next forms hforms =>
    rw [openers_flatten_forms htable hforms]
    exact Nat.zero_le _
  · split
    · next c => rw [openers_cons_of_not hmarker]
    · rw [List.cons_append, openers_cons_of_not hmarker, List.cons_append, openers_cons_of_not rfl,
        openers_append]
      exact Nat.le_of_eq (Nat.add_zero _)

/-- A raised text has no more openers. -/
theorem openers_toSuperscript_le (text : Text) : openers (toSuperscript text) ≤ openers text :=
  openers_convert_le (.inl rfl) rfl text

/-- A lowered text has no more openers. -/
theorem openers_toSubscript_le (text : Text) : openers (toSubscript text) ≤ openers text :=
  openers_convert_le (.inr rfl) rfl text

/-- A chemical formula has no more openers. -/
theorem openers_toChemical_le (text : Text) : openers (toChemical text) ≤ openers text := by
  induction text with
  | nil => exact Nat.le_refl _
  | cons c rest ih =>
    have hfirst : openers (if c.isDigit then toSubscript [c] else [c]) ≤ openers [c] := by
      split
      · exact openers_toSubscript_le [c]
      · exact Nat.le_refl _
    rw [toChemical, List.flatMap_cons, openers_append, openers_cons_eq c rest]
    exact Nat.add_le_add hfirst ih

end Script

/-! ## External links -/

namespace Link

/-- The words that are left without addresses in front are the last ones. -/
theorem dropAddresses_suffix (words : List Text) : dropAddresses words <:+ words := by
  fun_induction dropAddresses words with
  | case1 word next rest _ ih => exact ih.trans (List.suffix_cons _ _)
  | case2 => exact List.suffix_refl _
  | case3 => exact List.suffix_refl _

/-- The label of an external link has no more openers than its content. -/
theorem openers_externalLabel_le (content : Text) :
    openers (externalLabel content) ≤ openers content := by
  have hwords : (dropAddresses content.words).flatten.Sublist content :=
    ((dropAddresses_suffix _).sublist.trans List.filter_sublist).flatten.trans
      (Text.flatten_split_sublist _ _)
  rw [externalLabel, openers_intercalate rfl]
  exact openers_le_of_sublist hwords

/-- Resolving external links adds no openers. -/
theorem openers_resolveExternal_le (text : Text) :
    openers (resolveExternal text) ≤ openers text := by
  have hpass (text : Text) :
      openers (external.replaceWith externalLabel text) ≤ openers text := by
    refine Pattern.openers_replaceWith_le (fun tail content rest hrun => ?_) text
    obtain ⟨_, middle, hread, hrun⟩ := exists_of_bind hrun
    obtain ⟨_, left, hclose, hrun⟩ := exists_of_bind hrun
    obtain ⟨_, haddress, hpair⟩ := Option.map_eq_some_iff.mp hrun
    cases hread
    cases hpair
    -- whether the content begins with an address decides that there is a link, not what it holds
    have hcontent : content = tail.takeWhile fun c => c ≠ '[' && c ≠ ']' := by
      split at haddress
      · exact (Option.some.inj haddress).symm
      · cases haddress
    have htail : openers tail = openers content
        + openers (tail.dropWhile fun c => c ≠ '[' && c ≠ ']') := by
      rw [hcontent, ← openers_append, List.takeWhile_append_dropWhile]
    have hrest := openers_le_of_suffix ((one ']').suffix hclose)
    have hlabel := openers_externalLabel_le content
    have hopening := openers_le_cons external.opening tail
    omega
  have hpasses : ∀ passes text, openers (resolveExternalUpTo passes text) ≤ openers text := by
    intro passes
    induction passes with
    | zero => exact fun _ => Nat.le_refl _
    | succ passes ih =>
      intro text
      unfold resolveExternalUpTo
      split
      · exact (ih _).trans (hpass text)
      · exact Nat.le_refl _
  exact hpasses _ text

end Link

/-! ## Emphasis -/

namespace Emphasis

/-- The text of a part. -/
def Part.text : Part → Text
  | char c => [c]
  | run length => List.replicate length '\x27'

/-- The parts of a line make up the line. -/
theorem flatMap_parts (line : Text) : (parts line).flatMap Part.text = line := by
  induction line using run_induction with
  | nil => rfl
  | char c rest hc ih =>
    rw [parts_cons_of_ne hc, List.flatMap_cons, ih]
    rfl
  | run length rest hpos hrest ih =>
    rw [parts_run hpos hrest, List.flatMap_cons, ih]
    rfl

/-- Markers are taken away and nothing else. -/
theorem strip_sublist (state : State) (line : List Part) :
    (strip state line).Sublist (line.flatMap Part.text) := by
  induction line generalizing state with
  | nil => exact List.Sublist.refl _
  | cons part rest ih =>
    cases part with
    | char c => exact (ih state).cons_cons c
    | run length =>
      rw [strip_run]
      exact ((List.replicate_sublist_replicate _).mpr (State.left_le _ _ _)).append (ih _)

/-- Stripping emphasis adds no openers. -/
theorem openers_stripAll_le (text : Text) : openers (stripAll text) ≤ openers text := by
  have hline (line : Text) : openers (stripLine line) ≤ openers line := by
    have hstrip := strip_sublist .upright (parts line)
    rw [flatMap_parts] at hstrip
    exact openers_le_of_sublist hstrip
  have hlines : ∀ lines : List Text,
      openers (lines.map stripLine).flatten ≤ openers lines.flatten := by
    intro lines
    induction lines with
    | nil => exact Nat.le_refl _
    | cons line lines ih =>
      rw [List.map_cons, List.flatten_cons, List.flatten_cons, openers_append, openers_append]
      exact Nat.add_le_add (hline line) ih
  rw [stripAll, openers_intercalate rfl]
  exact (hlines _).trans (openers_le_of_sublist (Text.flatten_split_sublist _ text))

end Emphasis

end WikiText
