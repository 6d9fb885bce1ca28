import WikiText.Clean
import WikiText.Proofs.Emphasis
import WikiText.Proofs.Html.Floating
import WikiText.Proofs.Html.Strip
import WikiText.Proofs.Link.Addresses
import WikiText.Proofs.Link.Kept
import WikiText.Proofs.Text.Trim
import WikiText.Proofs.Trace

/-!
# Passes that find nothing

A pass of the cleaner leaves a text alone if none of its constructs occurs in it. `Flat` collects what
the passes before scripts and formulas look for. A text without opening angle brackets and opening
delimiters of tables is flat (`flat_of_notMem`), and nothing of it is rendered.
-/

namespace WikiText

open Scanner

variable {ε : Type}

namespace Html

/-! ## Tags

An element is a tag at its closing end. -/

/-- A closing tag begins with a slash, and a bracket closes it. -/
theorem exists_of_closeTag {name : String} {input rest : Text} {u : Unit}
    (h : (closeTag name).run input = some (u, rest)) :
    ∃ tail, input = '<' :: '/' :: tail ∧ '>' ∈ tail := by
  obtain ⟨written, blank, -, -, rfl⟩ := run_closeTag_eq_some.mp h
  exact ⟨_, rfl, by simp⟩

/-- A text without tags has no elements. -/
theorem element_not_occurs {text : Text} (h : anyTag.occurs text = false) (name : String) :
    (element name).occurs text = false := by
  rw [Pattern.occurs_eq_false_iff] at h ⊢
  intro tail hsuffix
  by_contra hsome
  obtain ⟨⟨content, rest⟩, hrun⟩ := Option.ne_none_iff_exists'.mp hsome
  obtain ⟨_, middle, hopen, hclose⟩ := exists_of_bind hrun
  obtain ⟨u, place, rfl, hplace⟩ := exists_of_upToRun hclose
  obtain ⟨closing, rfl, hmem⟩ := exists_of_closeTag hplace
  have hplace : '<' :: '/' :: closing <:+ text :=
    (List.suffix_append content _).trans
      (((openTag name).suffix hopen).trans ((List.suffix_cons '<' tail).trans hsuffix))
  exact run_anyTag_ne_none.mpr ⟨'/', closing, rfl, .inl rfl, hmem⟩ (h _ hplace)

end Html

/-! ## Layout -/

namespace Table

/-- Outside of tables, what does not open one is kept: a delimiter that closes nothing, too. -/
theorem removeFrom_cons {c : Char} {rest : Text} (h : c = '{' → rest.head? ≠ some '|')
    (inside : Text) :
    Table.removeFrom inside [] (c :: rest) = Table.removeFrom (c :: inside) [] rest := by
  by_cases hclose : c = '|' ∧ rest.head? = some '}'
  · obtain ⟨rfl, hhead⟩ := hclose
    obtain ⟨others, rfl⟩ := List.head?_eq_some_iff.mp hhead
    rfl
  · rw [Table.removeFrom]
    · rintro others rfl rfl
      exact h rfl rfl
    · rintro others rfl rfl
      exact hclose ⟨rfl, rfl⟩

/-- Without opening delimiters there is no table. -/
theorem removeAll_of_not_infix {text : Text} (h : ¬ ['{', '|'] <:+: text) :
    removeAll text = text := by
  have hscan : ∀ inside, removeFrom inside [] text = inside.reverse ++ text := by
    intro inside
    induction text generalizing inside with
    | nil => exact (List.append_nil _).symm
    | cons c text ih =>
      rw [Text.pair_infix_cons_iff, not_or] at h
      have hnext : c = '{' → text.head? ≠ some '|' := fun heq hhead => h.1 ⟨heq, hhead⟩
      rw [removeFrom_cons hnext, ih h.2, List.reverse_cons, List.append_assoc]
      rfl
  exact hscan []

end Table

namespace Html

/-- A text without tags for line breaks has none converted. -/
theorem convertLineBreaks_of_not_occurs {text : Text} (h : Html.lineBreak.occurs text = false) :
    Html.convertLineBreaks text = text := by
  rw [Html.convertLineBreaks, Pattern.pieces_of_not_occurs h, Pattern.stretches_map_plain]
  rfl

/-- A text without boxes loses none. -/
theorem removeFloating_of_not_occurs {text : Text} (h : Html.divTag.occurs text = false) :
    Html.removeFloating text = text := by
  have hplain := Html.pruneFloating_map_plain text []
  rw [List.append_nil, Html.pruneFloating, List.append_nil] at hplain
  rw [Html.removeFloating, Pattern.pieces_of_not_occurs h, hplain]

end Html

/-- The passes before scripts and formulas find nothing in a text. -/
structure Flat (text : Text) : Prop where
  nowiki : Html.nowiki.occurs text = false
  table : ¬ ['{', '|'] <:+: text
  named : Html.namedReference.occurs text = false
  paired : Html.pairedReference.occurs text = false
  span : (Html.element "span").occurs text = false
  lineBreak : Html.lineBreak.occurs text = false
  div : Html.divTag.occurs text = false
  preview : Html.previewNote.occurs text = false
  error : Html.errorMessage.occurs text = false
  block : Html.blockTag.occurs text = false
  definition : Html.definitionTag.occurs text = false
  cell : Html.cellTag.occurs text = false

/-- A flat text is left alone by all passes over the layout. -/
theorem removeLayout_of_flat {text : Text} (h : Flat text) : removeLayout text = text := by
  rw [removeLayout, Pattern.remove_of_not_occurs h.nowiki, Table.removeAll_of_not_infix h.table,
    Html.removeReferences, Pattern.remove_of_not_occurs h.named,
    Pattern.remove_of_not_occurs h.paired, Html.unwrapSpans,
    Pattern.replaceWith_of_not_occurs h.span, Html.convertLineBreaks_of_not_occurs h.lineBreak,
    Html.removeFloating_of_not_occurs h.div, Html.removeNotices,
    Pattern.remove_of_not_occurs h.preview, Pattern.remove_of_not_occurs h.error,
    Html.convertLayout, Pattern.replace_of_not_occurs h.block,
    Pattern.replace_of_not_occurs h.definition, Pattern.replace_of_not_occurs h.cell]

/-- A text without tags and tables is flat. -/
theorem flat_of_notMem {text : Text} (h : '<' ∉ text) (htable : ¬ ['{', '|'] <:+: text) :
    Flat text where
  nowiki := Pattern.not_occurs_of_notMem h
  table := htable
  named := Pattern.not_occurs_of_notMem h
  paired := Pattern.not_occurs_of_notMem h
  span := Pattern.not_occurs_of_notMem h
  lineBreak := Pattern.not_occurs_of_notMem h
  div := Pattern.not_occurs_of_notMem h
  preview := Pattern.not_occurs_of_notMem h
  error := Pattern.not_occurs_of_notMem h
  block := Pattern.not_occurs_of_notMem h
  definition := Pattern.not_occurs_of_notMem h
  cell := Pattern.not_occurs_of_notMem h

/-! ## Elements -/

/-- A pass that finds nothing changes nothing and notes nothing. -/
theorem replaceTraced_of_not_occurs {pattern : Pattern Text} {text : Text}
    (h : pattern.occurs text = false) (replacement : Text → Traced ε Text) :
    pattern.replaceTraced replacement text = pure text := by
  refine Traced.ext ?_ ?_
  · rw [Pattern.value_replaceTraced, Pattern.replaceWith_of_not_occurs h, Traced.value_pure]
  · rw [Pattern.replaceTraced, Pattern.pieces_of_not_occurs h, Traced.trace_bind,
      Traced.trace_traverse, List.flatMap_map]
    simp

/-- A pass that finds nothing changes nothing. -/
theorem value_replaceTraced_of_not_occurs {pattern : Pattern Text} {text : Text}
    (h : pattern.occurs text = false) (replacement : Text → Traced ε Text) :
    (pattern.replaceTraced replacement text).value = text := by
  rw [replaceTraced_of_not_occurs h, Traced.value_pure]

/-- Without opening angle brackets there is nothing to render, and nothing is noted. -/
theorem renderElements_of_notMem (note : Event → ε) (nested : Options → Text → Traced ε Text)
    {text : Text} (h : '<' ∉ text) : renderElements note nested text = pure text := by
  have hnone : ∀ name, (Html.element name).occurs text = false :=
    fun _ => Pattern.not_occurs_of_notMem h
  have hblank : ∀ name, (Html.blankElement name).occurs text = false :=
    fun _ => Pattern.not_occurs_of_notMem h
  simp only [renderElements, Pattern.remove_of_not_occurs (hblank _), pure_bind,
    replaceTraced_of_not_occurs (hnone _), Pattern.replaceWith_of_not_occurs (hnone _)]

/-- A text without tags has no elements to be rendered. -/
theorem value_renderElements_of_notMem (note : Event → ε) (nested : Options → Text → Traced ε Text)
    {text : Text} (h : '<' ∉ text) : (renderElements note nested text).value = text := by
  rw [renderElements_of_notMem note nested h, Traced.value_pure]

/-! ## Links -/

/-- A text without opening brackets has no links to be resolved. -/
theorem resolveLinks_of_notMem (note : Event → ε) (namespaces : Namespaces)
    (nested : Options → Text → Traced ε Text) (options : Options) {text : Text} (h : '[' ∉ text) :
    resolveLinks note namespaces nested options text = pure text := by
  have hnone : Text.occursIn ['[', '['] text = false :=
    Text.occursIn_eq_false_iff.mpr (Text.not_pair_infix_of_notMem h _)
  rw [resolveLinks, hnone, if_neg Bool.false_ne_true]

/-- Links of no known form stay as they are written. -/
theorem value_resolveLinks_of_allUnknown (note : Event → ε) {namespaces : Namespaces}
    (nested : Options → Text → Traced ε Text) (options : Options) {text : Text}
    (h : Link.AllUnknown namespaces text) :
    (resolveLinks note namespaces nested options text).value = text := by
  rw [resolveLinks]
  split
  · rw [Traced.value_bind, Link.resolveAll_kept _ (h.classify_eq _)]
    rfl
  · rfl

/-! ## All passes -/

/-- What the cleaner does with a text without tags, brackets and tables. -/
theorem cleanWith_of_notMem (note : Event → ε) (namespaces : Namespaces)
    (nested : Options → Text → Traced ε Text) (options : Options) {text : Text} (htag : '<' ∉ text)
    (hbracket : '[' ∉ text) (htable : ¬ ['{', '|'] <:+: text) :
    cleanWith note namespaces nested options text
      = pure (Tidy.tidy options (Emphasis.stripAll (Link.raisedAddress.remove text))) := by
  have htags : (if options.keepTags then Html.noinclude.remove text else Html.stripTags text)
      = text := by
    rw [Pattern.remove_of_not_occurs (Pattern.not_occurs_of_notMem htag),
      Html.stripTags_of_not_occurs (Pattern.not_occurs_of_notMem htag), ite_self]
  have hafter : '[' ∉ Link.raisedAddress.remove text :=
    fun hmem => hbracket (Pattern.remove_subset _ _ hmem)
  -- of the passes before the links only the one over raised addresses finds something
  have hmargin : Link.removeMargin (Ellipsis.unbracket text) = Link.raisedAddress.remove text := by
    rw [Ellipsis.unbracket, Pattern.replace_of_not_occurs (Pattern.not_occurs_of_notMem hbracket),
      Link.removeMargin, Pattern.remove_of_not_occurs (Pattern.not_occurs_of_notMem hafter)]
  have hexternal : Link.resolveExternal (Link.raisedAddress.remove text)
      = Link.raisedAddress.remove text :=
    Link.resolveExternal_of_not_occurs (Pattern.not_occurs_of_notMem hafter)
  simp only [cleanWith, removeLayout_of_flat (flat_of_notMem htag htable),
    renderElements_of_notMem note nested htag, pure_bind, htags, hmargin,
    resolveLinks_of_notMem note namespaces nested options hafter, hexternal]

end WikiText
