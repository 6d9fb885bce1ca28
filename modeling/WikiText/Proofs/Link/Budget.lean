import WikiText.Proofs.Clean.Termination
import WikiText.Proofs.Link.Place

/-!
# The budget of passes

Links are resolved in at most one pass more than the text opens links. Without a budget the passes always come
to rest, for each pass that changes a text takes openers away (`isFixedPt_atRest`), and where they rest no link
of a known form is left (`isFixedPt_iff_allUnknown`). The budget is another matter: it counts pairs of brackets,
and a pass need not take any of them away (`resolveAll_leaves_link`). It suffices if no single bracket of the
text stands where a link could take its neighbour away, and the labels do not bring such brackets in
(`isFixedPt_resolveAll`). Of labels that are shown as they are written this need not be asked, for they are part
of the text.
-/

namespace WikiText.Link

open Function (IsFixedPt)
open Unicode (isWhiteSpace)

variable {ε : Type}

/-! ## Rest -/

/-- The text after as many passes as it has openers. -/
def atRest (resolve : Text → Traced ε Action) (text : Text) : Text :=
  (afterPass resolve)^[openers text] text

/-- A link is kept only if it is of no known form. -/
theorem eq_unknown_of_act {clean : Text → Traced ε Text} {reading : Reading}
    (h : (reading.act clean).value = .keep) : reading = .unknown := by
  cases reading with
  | unknown => rfl
  | category => cases h
  | hidden => cases h
  | shown label => cases h
  | pictured description => cases h

section

variable {namespaces : Namespaces} {clean : Text → Traced ε Text}
  (hclean : ∀ text, openers (clean text).value ≤ openers text)

include hclean

/-- A pass takes openers away, unless no link of a known form is closed in the text. -/
theorem openers_afterPass_lt_or_allUnknown (text : Text) :
    openers (afterPass (classify namespaces clean) text) < openers text ∨ AllUnknown namespaces text := by
  rcases openers_resolveOnce_lt_or_kept (modest_classify namespaces hclean) text with hlt | hkept
  · exact .inl hlt
  · exact .inr fun content hcontent => eq_unknown_of_act (hkept content hcontent)

/-- A pass leaves a text alone exactly if no link of a known form is closed in it. -/
theorem isFixedPt_iff_allUnknown {text : Text} :
    IsFixedPt (afterPass (classify namespaces clean)) text ↔ AllUnknown namespaces text := by
  constructor
  · intro hfix
    refine (openers_afterPass_lt_or_allUnknown hclean text).resolve_left ?_
    rw [hfix.eq]
    exact Nat.lt_irrefl _
  · intro hunknown
    exact congrArg Traced.value (resolveOnce_kept (hunknown.classify_eq clean))

/-- Without a budget the passes come to rest, at the latest when there are no openers left. -/
theorem isFixedPt_atRest (text : Text) :
    IsFixedPt (afterPass (classify namespaces clean)) (atRest (classify namespaces clean) text) := by
  have hless : ∀ text, ¬ IsFixedPt (afterPass (classify namespaces clean)) text →
      openers (afterPass (classify namespaces clean) text) < openers text := by
    intro text hchanged
    exact (openers_afterPass_lt_or_allUnknown hclean text).resolve_right fun hunknown =>
      hchanged ((isFixedPt_iff_allUnknown hclean).mpr hunknown)
  obtain ⟨passes, hle, hlast, -⟩ := exists_last_pass openers hless text
  have hfix := not_not.mp hlast
  -- the passes after one that changes nothing change nothing either
  obtain ⟨more, hmore⟩ := Nat.exists_eq_add_of_le hle
  rw [atRest, hmore, Nat.add_comm, Function.iterate_add_apply, (hfix.iterate more).eq]
  exact hfix

/-- The returned text is at rest only where all passes come to rest. -/
theorem isFixedPt_iff_eq_atRest (changed : ℕ → ε) (text : Text) :
    IsFixedPt (afterPass (classify namespaces clean))
        (resolveAll (classify namespaces clean) changed text).value ↔
      (resolveAll (classify namespaces clean) changed text).value
        = atRest (classify namespaces clean) text := by
  constructor
  · intro hfix
    have hrest : IsFixedPt (afterPass (classify namespaces clean)) _ := isFixedPt_atRest hclean text
    have hmore := hfix.iterate (openers text)
    rw [value_resolveAll] at hmore ⊢
    rw [← hmore.eq, ← Function.iterate_add_apply, Nat.add_comm, Function.iterate_add_apply]
    exact (hrest.iterate (pairs text + 1)).eq
  · intro heq
    rw [heq]
    exact isFixedPt_atRest hclean text

end

/-! ## Enough passes -/

/-- No link that is asked about in the passes within the budget is shown by a text that brings brackets
together: no single bracket of the text stands before white space, which may go with a category, and each label,
once it is cleaned, has no more pairs than the content of its link, no single bracket before white space and
none at its end. -/
def BringsNone (namespaces : Namespaces) (clean : Text → Traced ε Text) (text : Text) : Prop :=
  singleBefore isWhiteSpace text = false ∧
    ∀ passes ≤ pairs text,
      ∀ content ∈ asked (classify namespaces clean) ((afterPass (classify namespaces clean))^[passes] text),
        ∀ label ∈ (read namespaces content).label?, Unjoining isWhiteSpace content (clean label).value

/-- What the budget is worth for a text, where `enough` is a condition under which it suffices. -/
structure Budgeted (namespaces : Namespaces) (clean : Text → Traced ε Text) (changed : ℕ → ε) (text : Text)
    (enough : Prop) : Prop where
  /-- Without a budget the passes come to rest. -/
  rests : IsFixedPt (afterPass (classify namespaces clean)) (atRest (classify namespaces clean) text)
  /-- One more pass leaves the returned text alone exactly if it is the one at rest. -/
  isFixedPt_iff_eq : IsFixedPt (afterPass (classify namespaces clean))
      (resolveAll (classify namespaces clean) changed text).value ↔
    (resolveAll (classify namespaces clean) changed text).value = atRest (classify namespaces clean) text
  /-- One more pass leaves the returned text alone exactly if no link of a known form is left in it. -/
  isFixedPt_iff_unknown : IsFixedPt (afterPass (classify namespaces clean))
      (resolveAll (classify namespaces clean) changed text).value ↔
    AllUnknown namespaces (resolveAll (classify namespaces clean) changed text).value
  /-- Under the condition, one more pass leaves the returned text alone. -/
  suffices_of : enough → IsFixedPt (afterPass (classify namespaces clean))
    (resolveAll (classify namespaces clean) changed text).value

/-- The passes of a resolve that brings no openers in its labels end as described. -/
theorem budgeted {namespaces : Namespaces} {clean : Text → Traced ε Text}
    (hclean : ∀ text, openers (clean text).value ≤ openers text) (changed : ℕ → ε) (text : Text)
    {enough : Prop}
    (henough : enough → IsFixedPt (afterPass (classify namespaces clean))
      (resolveAll (classify namespaces clean) changed text).value) :
    Budgeted namespaces clean changed text enough where
  rests := isFixedPt_atRest hclean text
  isFixedPt_iff_eq := isFixedPt_iff_eq_atRest hclean changed text
  isFixedPt_iff_unknown := isFixedPt_iff_allUnknown hclean
  suffices_of := henough

/-- The budget suffices for labels that bring no brackets together, however they are cleaned. -/
theorem isFixedPt_of_bringsNone {namespaces : Namespaces} {clean : Text → Traced ε Text} (changed : ℕ → ε)
    {text : Text} (h : BringsNone namespaces clean text) :
    IsFixedPt (afterPass (classify namespaces clean))
      (resolveAll (classify namespaces clean) changed text).value := by
  obtain ⟨hsingle, hlabels⟩ := h
  refine isFixedPt_of_harmless (fun _ => id) changed hsingle fun passes hle content hcontent => ?_
  exact harmless_classify (by decide) fun label hlabel _ => hlabels passes hle content hcontent label hlabel

/-- The budget suffices for labels that are shown as they are written, if no single bracket of the text stands
before white space or where a label may end. -/
theorem isFixedPt_of_singleBefore {namespaces : Namespaces} (changed : ℕ → ε) {text : Text}
    (h : singleBefore endsLabel text = false) :
    IsFixedPt (afterPass (classify (ε := ε) namespaces pure))
      (resolveAll (classify namespaces pure) changed text).value := by
  refine isFixedPt_of_harmless (fun c hc => ?_) changed h fun _ _ content _ =>
    harmless_classify_pure namespaces content
  rw [endsLabel, hc]
  rfl

/-- Labels without openers are cleaned to texts that bring no brackets together. -/
theorem bringsNone_of_openers {namespaces : Namespaces} {options : Options} {text : Text}
    (hsingle : singleBefore isWhiteSpace text = false)
    (hlabels : ∀ passes ≤ pairs text,
      ∀ content ∈ asked (classify namespaces (clean namespaces options))
          ((afterPass (classify namespaces (clean namespaces options)))^[passes] text),
        ∀ label ∈ (read namespaces content).label?, openers label = 0) :
    BringsNone namespaces (clean namespaces options) text := by
  refine ⟨hsingle, fun passes hpasses content hcontent label hlabel => ?_⟩
  have hle := openers_clean_le namespaces options label
  rw [hlabels passes hpasses content hcontent label hlabel] at hle
  have hnone : '[' ∉ (clean namespaces options label).value := by
    intro hmem
    have hpos : 0 < openers (clean namespaces options label).value :=
      List.countP_pos_iff.mpr ⟨'[', hmem, rfl⟩
    omega
  obtain ⟨hpairs, hends, hwithin⟩ := plain_of_notMem hnone
  exact ⟨by rw [hpairs]; exact Nat.zero_le _, hends, hwithin isWhiteSpace⟩

/-- **When the budget of passes suffices.** For labels that are shown as they are written and for labels that
are cleaned, the passes would come to rest without a budget, where no link of a known form is left, and one more
pass leaves the returned text alone exactly if they came to rest within the budget. They do if the labels that
are asked about bring no brackets together; of labels as they are written it is enough to know that no single
bracket of the text stands where a label may end. -/
theorem isFixedPt_resolveAll (namespaces : Namespaces) (changed : ℕ → Event) (text : Text) :
    Budgeted namespaces pure changed text
      (singleBefore endsLabel text = false ∨ BringsNone (ε := Event) namespaces pure text) ∧
    ∀ options, Budgeted namespaces (clean namespaces options) changed text
      (BringsNone namespaces (clean namespaces options) text) := by
  constructor
  · refine budgeted (fun _ => Nat.le_refl _) changed text ?_
    rintro (hsingle | hnone)
    · exact isFixedPt_of_singleBefore changed hsingle
    · exact isFixedPt_of_bringsNone changed hnone
  · intro options
    exact budgeted (openers_clean_le namespaces options) changed text (isFixedPt_of_bringsNone changed)

/-- A text with a bracket by itself, a link and a category. -/
def footnoted : Text :=
  "[1] [[a|b c]] [[Category:x]]".toList

/-- The category goes with the space before it, which brings no brackets together. -/
theorem isFixedPt_resolveAll_footnoted :
    singleBefore endsLabel footnoted = false ∧
      IsFixedPt (afterPass (classify (ε := Event) .canonical pure))
        (resolveAll (classify .canonical pure) Event.linkPass footnoted).value ∧
      BringsNone .canonical (clean .canonical .spaced) footnoted ∧
      IsFixedPt (afterPass (classify .canonical (clean .canonical .spaced)))
        (resolveAll (classify .canonical (clean .canonical .spaced)) Event.linkPass footnoted).value := by
  have hsingle : singleBefore endsLabel footnoted = false := by decide
  have hnone : BringsNone .canonical (clean .canonical .spaced) footnoted :=
    bringsNone_of_openers (by decide) (by decide +kernel)
  obtain ⟨hpure, hclean⟩ := isFixedPt_resolveAll .canonical Event.linkPass footnoted
  exact ⟨hsingle, hpure.suffices_of (.inl hsingle), hnone, (hclean .spaced).suffices_of hnone⟩

/-- Both categories go with the space before them, which brings brackets together each time, and the
budget of two passes ends before the link that they leave. This is so for labels shown as they are
written and for labels that are cleaned. -/
theorem resolveAll_leaves_link :
    ¬ IsFixedPt (afterPass (classify (ε := Event) .canonical pure))
        (resolveAll (classify .canonical pure) Event.linkPass
          "[ [ [[Category:x]][Category:y]][a]]".toList).value ∧
      ¬ IsFixedPt (afterPass (classify .canonical (clean .canonical .spaced)))
        (resolveAll (classify .canonical (clean .canonical .spaced)) Event.linkPass
          "[ [ [[Category:x]][Category:y]][a]]".toList).value ∧
      cleanEnglish .plain "[ [ [[Category:x]][Category:y]][a]]".toList = "[[a]]".toList := by
  decide +kernel

end WikiText.Link
