import WikiText.Proofs.Clean.Passes

/-!
# Formulas in a text

A formula is rendered in the middle of the cleaner, so that what it is rendered to is read again by
the passes that come after: source code, tags, ellipses, links and emphasis (`reread`). `Unmarked`
says that none of them finds anything in a text, and `clean_formula` that the cleaner then shows the
formula as it is rendered. A derivative with two primes is rendered with two apostrophes, which are
emphasis (`clean_formula_primes`).

The passes before the formula find nothing in its element: each of their constructs begins with an
angle bracket and is refused at the two that there are (`not_occurs_inElement`).
-/

namespace WikiText

open Scanner

/-! ## Texts without markup -/

/-- The passes after formulas are rendered find nothing in a text. -/
structure Unmarked (text : Text) : Prop where
  tag : Html.anyTag.occurs text = false
  ellipsis : Ellipsis.dotted.occurs text = false
  address : Link.raisedAddress.occurs text = false
  edit : Link.editLink.occurs text = false
  link : Link.AllUnknown .canonical text
  external : Link.external.occurs text = false
  emphasis : ¬ ['\x27', '\x27'] <:+: text

/-! ## The element of a formula -/

/-- A formula in its element. -/
def inElement (formula : Text) : Text :=
  "<math>".toList ++ (formula ++ "</math>".toList)

/-- The characters of a formula in its element. -/
theorem inElement_eq (formula : Text) :
    inElement formula = '<' :: ("math>".toList ++ (formula ++ '<' :: "/math>".toList)) :=
  rfl

variable {α ε : Type} {formula : Text}

/-- A construct that neither of the tags of a formula begins does not occur. -/
theorem not_occurs_inElement {pattern : Pattern α} (hopening : pattern.opening = '<')
    (hfirst : pattern.body.run ("math>".toList ++ (formula ++ '<' :: "/math>".toList)) = none)
    (hlast : pattern.body.run "/math>".toList = none) (hformula : '<' ∉ formula) :
    pattern.occurs (inElement formula) = false := by
  have hclosing : pattern.occurs "/math>".toList = false :=
    Pattern.not_occurs_of_notMem (by rw [hopening]; decide)
  rw [inElement_eq, Pattern.occurs_cons_of_none hfirst,
    Pattern.occurs_append_of_notMem (by rw [hopening]; decide),
    Pattern.occurs_append_of_notMem (by rwa [hopening]), Pattern.occurs_cons_of_none hlast, hclosing]

/-- Neither of the tags holds a brace or a bar, so that a delimiter of a table is in the formula. -/
theorem not_infix_inElement (htable : ¬ ['{', '|'] <:+: formula) :
    ¬ ['{', '|'] <:+: inElement formula := by
  have hlast : ¬ ['{', '|'] <:+: formula ++ "</math>".toList := by
    induction formula with
    | nil => decide
    | cons c formula ih =>
      rw [Text.pair_infix_cons_iff, not_or] at htable
      rw [List.cons_append, Text.pair_infix_cons_iff, not_or]
      refine ⟨?_, ih htable.2⟩
      rintro ⟨rfl, hhead⟩
      cases formula with
      | nil => cases hhead
      | cons d formula => exact htable.1 ⟨rfl, hhead⟩
  have hfirst : '{' ∉ "<math>".toList := by decide
  exact fun hin => hlast ((Text.pair_infix_append_of_notMem hfirst).mp hin)

/-- The passes before scripts and formulas find nothing in the element of a formula. -/
theorem flat_inElement (hformula : '<' ∉ formula) (htable : ¬ ['{', '|'] <:+: formula) :
    Flat (inElement formula) where
  nowiki := not_occurs_inElement rfl rfl rfl hformula
  table := not_infix_inElement htable
  named := not_occurs_inElement rfl rfl rfl hformula
  paired := not_occurs_inElement rfl rfl rfl hformula
  span := not_occurs_inElement rfl rfl rfl hformula
  lineBreak := not_occurs_inElement rfl rfl rfl hformula
  div := not_occurs_inElement rfl rfl rfl hformula
  preview := not_occurs_inElement rfl rfl rfl hformula
  error := not_occurs_inElement rfl rfl rfl hformula
  block := not_occurs_inElement rfl rfl rfl hformula
  definition := not_occurs_inElement rfl rfl rfl hformula
  cell := not_occurs_inElement rfl rfl rfl hformula

/-- The content of the element is the whole formula. -/
theorem upToRun_formula (hformula : '<' ∉ formula) :
    Scanner.upToRun (Html.closeTag "math") (formula ++ "</math>".toList) = some (formula, []) := by
  have hclose : (Html.closeTag "math").run "</math>".toList = some ((), []) := rfl
  refine Scanner.upToRun_append (fun c later hsuffix => ?_) hclose
  by_contra hsome
  obtain ⟨⟨u, rest⟩, hrun⟩ := Option.ne_none_iff_exists'.mp hsome
  obtain ⟨tail, heq, -⟩ := Html.exists_of_closeTag hrun
  exact hformula (hsuffix.subset ((List.cons.inj heq).1 ▸ List.mem_cons_self))

/-- The element of a formula becomes what the formula is rendered to, and only the source code of the
text is rendered after it. -/
theorem value_renderElements_inElement (note : Event → ε) (nested : Options → Text → Traced ε Text)
    (hformula : '<' ∉ formula) :
    (renderElements note nested (inElement formula)).value
      = (Html.element "syntaxhighlight").replaceWith
        (fun code => '\n' :: Text.trim code ++ ['\n']) (Formula.render formula).value := by
  have hmath : ∀ replacement, (Html.element "math").replaceWith replacement (inElement formula)
      = replacement formula := by
    intro replacement
    -- the first closing tag is the last one, for the formula has no angle bracket
    have hbody : (Html.element "math").body.run
        ("math>".toList ++ (formula ++ "</math>".toList)) = some (formula, []) :=
      upToRun_formula hformula
    have hpieces : (Html.element "math").pieces (inElement formula) = [.found formula] := by
      refine (Pattern.pieces_cons_of_some hbody).trans ?_
      rw [Pattern.pieces]
    rw [Pattern.replaceWith_eq, hpieces, List.flatMap_singleton]
    rfl
  rw [renderElements]
  simp only [Traced.value_bind, Traced.value_pure]
  rw [Pattern.remove_of_not_occurs (not_occurs_inElement rfl rfl rfl hformula),
    value_replaceTraced_of_not_occurs (not_occurs_inElement rfl rfl rfl hformula),
    Pattern.remove_of_not_occurs (not_occurs_inElement rfl rfl rfl hformula),
    value_replaceTraced_of_not_occurs (not_occurs_inElement rfl rfl rfl hformula),
    value_replaceTraced_of_not_occurs (not_occurs_inElement rfl rfl rfl hformula),
    Pattern.value_replaceTraced, hmath]
  rfl

/-! ## The passes after the formula -/

/-- What the passes after formulas make of a text, where `nested` cleans the labels of links. -/
def reread (nested : Options → Text → Traced Event Text) (text : Text) : Text :=
  let text := (Html.element "syntaxhighlight").replaceWith
    (fun code => '\n' :: Text.trim code ++ ['\n']) text
  let text := Link.removeMargin (Ellipsis.unbracket (Html.stripTags text))
  let text := (resolveLinks id .canonical nested .plain text).value
  Emphasis.stripAll (Link.resolveExternal text)

/-- A text without marks is the same when it is read again. -/
theorem reread_of_unmarked (nested : Options → Text → Traced Event Text) {text : Text}
    (h : Unmarked text) : reread nested text = text := by
  rw [reread, Pattern.replaceWith_of_not_occurs (Html.element_not_occurs h.tag _),
    Html.stripTags_of_not_occurs h.tag, Ellipsis.unbracket,
    Pattern.replace_of_not_occurs h.ellipsis, Link.removeMargin,
    Pattern.remove_of_not_occurs h.address, Pattern.remove_of_not_occurs h.edit,
    value_resolveLinks_of_allUnknown _ _ _ h.link, Link.resolveExternal_of_not_occurs h.external,
    Emphasis.stripAll_of_not_infix h.emphasis]

/-- **What a formula is rendered to is read again by the passes that follow, and by nothing else**:
it is shown as it is rendered if they find no markup in it. The formula is any text that neither
closes its element nor opens a table. -/
theorem clean_formula (formula : Text) (hformula : '<' ∉ formula)
    (htable : ¬ ['{', '|'] <:+: formula) :
    cleanEnglish .plain (inElement formula)
        = Tidy.tidy .plain (reread (cleanUpTo .canonical (openers (inElement formula)))
          (Formula.render formula).value) ∧
      (Unmarked (Formula.render formula).value →
        cleanEnglish .plain (inElement formula)
          = Tidy.tidy .plain (Formula.render formula).value) := by
  have hread : cleanEnglish .plain (inElement formula)
      = Tidy.tidy .plain (reread (cleanUpTo .canonical (openers (inElement formula)))
        (Formula.render formula).value) := by
    rw [cleanEnglish, clean, cleanUpTo, cleanWith]
    simp only [Traced.value_bind, Traced.value_pure]
    rw [removeLayout_of_flat (flat_inElement hformula htable),
      value_renderElements_inElement _ _ hformula, if_neg (by decide)]
    rfl
  refine ⟨hread, fun hunmarked => ?_⟩
  rw [hread, reread_of_unmarked _ hunmarked]

/-- An interval and a single prime are no markup. -/
theorem clean_formula_interval :
    '<' ∉ "f'\\in [0, \\sqrt{a}]".toList ∧ ¬ ['{', '|'] <:+: "f'\\in [0, \\sqrt{a}]".toList ∧
      Unmarked (Formula.render "f'\\in [0, \\sqrt{a}]".toList).value ∧
      cleanEnglish .plain (inElement "f'\\in [0, \\sqrt{a}]".toList)
        = Tidy.tidy .plain (Formula.render "f'\\in [0, \\sqrt{a}]".toList).value := by
  have hformula : '<' ∉ "f'\\in [0, \\sqrt{a}]".toList := by decide
  have htable : ¬ ['{', '|'] <:+: "f'\\in [0, \\sqrt{a}]".toList := by decide
  have hrender : (Formula.render "f'\\in [0, \\sqrt{a}]".toList).value = "f'∈[0,√a]".toList := by
    decide +kernel
  have hunmarked : Unmarked (Formula.render "f'\\in [0, \\sqrt{a}]".toList).value := by
    rw [hrender]
    constructor <;> decide +kernel
  exact ⟨hformula, htable, hunmarked, (clean_formula _ hformula htable).2 hunmarked⟩

/-- The two primes of a second derivative are rendered as they are written, and then read as a
marker of emphasis. -/
theorem clean_formula_primes :
    '<' ∉ "f\x27\x27(x)".toList ∧ ¬ ['{', '|'] <:+: "f\x27\x27(x)".toList ∧
      ¬ ['|', '}'] <:+: "f\x27\x27(x)".toList ∧
      cleanEnglish .plain (inElement "f\x27\x27(x)".toList) = "f(x)".toList ∧
      Tidy.tidy .plain (Formula.render "f\x27\x27(x)".toList).value = "f\x27\x27(x)".toList := by
  decide +kernel

end WikiText
