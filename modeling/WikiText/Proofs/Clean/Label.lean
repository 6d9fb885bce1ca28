import Mathlib.Data.Bool.AllAny
import WikiText.Proofs.Clean.Passes
import WikiText.Proofs.Link.Label
import WikiText.Proofs.Tidy

/-!
# Labels in a text

The label of a link is cleaned by itself, and what comes of it is then read by the rest of the call
that the link stands in: known links, external links and emphasis in it are resolved, and it is
tidied once more (`rereadLabel`). `clean_labelled` says this for labels without separators, and that
the link shows its label as it would be cleaned alone if nothing is left to read (`Shown`). A
reference that spells a reference is decoded twice (`clean_labelled_reference`).

White space around the label stays when the label is cleaned, and is trimmed at the end. It makes no
difference for any of the passes in between.
-/

namespace WikiText

open Scanner
open Text (Blank)

/-! ## Bare texts -/

/-- What links, tags, tables, sections and emphasis are made of. -/
def separators : Text :=
  "[]|<>\x7b\x7d\x27#".toList

/-- A text without separators. -/
def Bare (text : Text) : Prop :=
  ∀ c ∈ text, c ∉ separators

instance (text : Text) : Decidable (Bare text) :=
  List.decidableBAll (· ∉ separators) text

/-- A bare text has none of the separators. -/
theorem Bare.notMem {text : Text} (h : Bare text) {c : Char} (hc : c ∈ separators) : c ∉ text :=
  fun hmem => h c hmem hc

/-- Characters of a bare text make a bare text. -/
theorem Bare.of_subset {text part : Text} (h : Bare text) (hpart : part ⊆ text) : Bare part :=
  fun c hc => h c (hpart hc)

variable {namespaces : Namespaces} {nested : Options → Text → Traced Event Text} {text : Text}

/-- A text without tags, tables and bracketed dots is only read for links and emphasis. -/
theorem value_cleanWith_of_notMem (keepSpace : Bool) (htag : '<' ∉ text)
    (htable : ¬ ['{', '|'] <:+: text) (hdots : Ellipsis.dotted.occurs text = false)
    (hedit : Link.editLink.occurs (Link.raisedAddress.remove text) = false) :
    (cleanWith id namespaces nested ⟨keepSpace, false⟩ text).value
      = Tidy.tidy ⟨keepSpace, false⟩ (Emphasis.stripAll (Link.resolveExternal
        (resolveLinks id namespaces nested ⟨keepSpace, false⟩
          (Link.raisedAddress.remove text)).value)) := by
  have hstrip : Html.stripTags text = text :=
    Html.stripTags_of_not_occurs (Pattern.not_occurs_of_notMem htag)
  rw [cleanWith]
  simp only [Traced.value_bind, Traced.value_pure]
  rw [removeLayout_of_flat (flat_of_notMem htag htable), value_renderElements_of_notMem _ _ htag,
    if_neg Bool.false_ne_true, hstrip, Ellipsis.unbracket, Pattern.replace_of_not_occurs hdots,
    Link.removeMargin, Pattern.remove_of_not_occurs hedit]

/-- A bare text loses its raised addresses and is tidied. -/
theorem value_cleanUpTo_of_bare (depth : ℕ) (keepSpace : Bool) (h : Bare text) :
    (cleanUpTo namespaces (depth + 1) ⟨keepSpace, false⟩ text).value
      = Tidy.tidy ⟨keepSpace, false⟩ (Link.raisedAddress.remove text) := by
  have hremoved : Bare (Link.raisedAddress.remove text) :=
    h.of_subset (Link.raisedAddress.remove_subset text)
  have hopen : '[' ∉ Link.raisedAddress.remove text := hremoved.notMem (by decide)
  have hlinks : Text.occursIn ['[', '['] (Link.raisedAddress.remove text) = false :=
    Text.occursIn_eq_false_iff.mpr (Text.not_pair_infix_of_notMem hopen _)
  have hemphasis : ¬ ['\x27', '\x27'] <:+: Link.raisedAddress.remove text :=
    Text.not_pair_infix_of_notMem (hremoved.notMem (by decide)) _
  rw [cleanUpTo, value_cleanWith_of_notMem keepSpace (h.notMem (by decide))
    (Text.not_pair_infix_of_notMem (h.notMem (by decide)) _)
    (Pattern.not_occurs_of_notMem (h.notMem (by decide))) (Pattern.not_occurs_of_notMem hopen),
    resolveLinks, if_neg (by rw [hlinks]; exact Bool.false_ne_true), Traced.value_pure,
    Link.resolveExternal_of_not_occurs (Pattern.not_occurs_of_notMem hopen),
    Emphasis.stripAll_of_not_infix hemphasis]

/-! ## The link around a label -/

variable {α : Type} {target label : Text}

/-- A construct that begins with a bracket, and goes on with neither a bracket nor a letter, is not in
the link. -/
theorem not_occurs_labelled {pattern : Pattern α} (hopening : pattern.opening = '[')
    (hbracket : ∀ rest, pattern.body.run ('[' :: rest) = none)
    (hletter : ∀ c rest, c.isAlpha = true → pattern.body.run (c :: rest) = none)
    (hletters : ∀ c ∈ target, c.isAlpha = true) (htarget : target ≠ []) (hlabel : '[' ∉ label) :
    pattern.occurs (labelled target label) = false := by
  have hinside : '[' ∉ target ++ '|' :: label ++ [']', ']'] := by
    intro hmem
    rcases List.mem_append.mp hmem with hmem | hmem
    · exact Link.notMem_content hletters (by decide) (by decide) hlabel hmem
    · exact absurd hmem (by decide)
  have hrefused : pattern.body.run (target ++ '|' :: label ++ [']', ']']) = none := by
    cases target with
    | nil => exact absurd rfl htarget
    | cons c target => exact hletter c _ (hletters c List.mem_cons_self)
  rw [labelled, Pattern.occurs_cons_of_none (hbracket _), Pattern.occurs_cons_of_none hrefused,
    Pattern.not_occurs_of_notMem (by rwa [hopening])]

/-- A mark that is no bracket is not in the link unless it is in the label. -/
theorem notMem_labelled (hletters : ∀ c ∈ target, c.isAlpha = true) {c : Char}
    (hc : c ∈ Link.marks) (hbracket : c ∉ "[|]".toList) (hlabel : c ∉ label) :
    c ∉ labelled target label := by
  have hbar : c ≠ '|' := fun heq => hbracket (by rw [heq]; decide)
  have hopen : c ≠ '[' := fun heq => hbracket (by rw [heq]; decide)
  have hclose : c ≠ ']' := fun heq => hbracket (by rw [heq]; decide)
  have hcontent := Link.notMem_content hletters hc hbar hlabel
  rw [labelled, List.mem_cons, List.mem_cons, List.mem_append, not_or, not_or, not_or]
  exact ⟨hopen, hopen, hcontent, by simp [hclose]⟩

/-- No dots between brackets stand in a link with a label. -/
theorem dotted_not_occurs_labelled (hletters : ∀ c ∈ target, c.isAlpha = true)
    (htarget : target ≠ []) (hlabel : '[' ∉ label) :
    Ellipsis.dotted.occurs (labelled target label) = false := by
  refine not_occurs_labelled rfl (fun _ => rfl) (fun c rest hc => ?_) hletters htarget hlabel
  by_contra hsome
  obtain ⟨⟨u, left⟩, hrun⟩ := Option.ne_none_iff_exists'.mp hsome
  obtain ⟨_, start, hblank, hrun⟩ := exists_of_bind hrun
  obtain ⟨_, middle, hdots, -⟩ := exists_of_bind hrun
  have hstart : (c :: rest).dropWhile Unicode.isWhiteSpace = c :: rest :=
    List.dropWhile_cons_of_neg (by simp [Link.isWhiteSpace_letter hc])
  obtain rfl : (c :: rest).dropWhile Unicode.isWhiteSpace = start := by
    cases hblank
    rfl
  rw [hstart] at hdots
  rw [(List.cons.inj (run_matching_beq.mp hdots)).1] at hc
  exact absurd hc (by decide)

/-- A link with a label is no link to edit a section. -/
theorem editLink_not_occurs_labelled (hletters : ∀ c ∈ target, c.isAlpha = true)
    (htarget : target ≠ []) (hlabel : '[' ∉ label) :
    Link.editLink.occurs (labelled target label) = false := by
  refine not_occurs_labelled rfl (fun _ => rfl) (fun c rest hc => ?_) hletters htarget hlabel
  by_contra hsome
  obtain ⟨⟨u, left⟩, hrun⟩ := Option.ne_none_iff_exists'.mp hsome
  obtain ⟨_, middle, hslashes, -⟩ := exists_of_bind hrun
  rw [(List.cons.inj (run_matching_beq.mp hslashes)).1] at hc
  exact absurd hc (by decide)

/-- Raised addresses are removed inside of the label. -/
theorem removeRaised_labelled (hletters : ∀ c ∈ target, c.isAlpha = true) :
    Link.raisedAddress.remove (labelled target label)
      = labelled target (Link.raisedAddress.remove label) := by
  have hbefore : '^' ∉ '[' :: '[' :: (target ++ ['|']) := by
    have hcontent : '^' ∉ target ++ ['|'] :=
      Link.notMem_content hletters (by decide) (by decide) List.not_mem_nil
    simpa using hcontent
  have hsplit : ∀ label, labelled target label
      = '[' :: '[' :: (target ++ ['|']) ++ label ++ [']', ']'] := by simp [labelled]
  rw [hsplit, hsplit]
  exact Link.removeRaised_between hbefore (List.all_iff_forall_prop.mp (by decide)) label

/-! ## The label -/

/-- A link to a target of letters, whose label has no separators. The label is more than raised
addresses, and no other comes together where they are removed. -/
structure PlainLink (target label : Text) : Prop where
  nonempty : target ≠ []
  letters : ∀ c ∈ target, c.isAlpha = true
  bare : Bare label
  shown : (Link.raisedAddress.remove label).trim ≠ []
  address : Link.raisedAddress.occurs (Link.raisedAddress.remove label) = false

/-- The label of a plain link without raised addresses is bare. -/
theorem PlainLink.bare_remove (h : PlainLink target label) :
    Bare (Link.raisedAddress.remove label) :=
  h.bare.of_subset (Link.raisedAddress.remove_subset label)

/-- The label is cleaned, between white space, as it would be alone. -/
theorem exists_cleaned_label (depth : ℕ) (h : PlainLink target label) :
    ∃ left right, Blank left ∧ Blank right ∧
      (cleanUpTo .canonical (depth + 1) .spaced (Link.raisedAddress.remove label).trim).value
        = left ++ cleanEnglish .plain label ++ right := by
  obtain ⟨left, right, hleft, hright, hsplit⟩ :=
    Text.exists_eq_trim (Link.raisedAddress.remove label)
  generalize (Link.raisedAddress.remove label).trim = shown at hsplit
  have hshown : Bare shown := h.bare_remove.of_subset (hsplit ▸ by simp)
  have hremoved : Link.raisedAddress.remove shown = shown := by
    -- no raised address ends in the white space that is trimmed
    have hafter : ∀ c ∈ right, c ∉ "^([https:/)".toList := by
      have hink : ∀ c ∈ "^([https:/)".toList, Unicode.isWhiteSpace c = false :=
        List.all_iff_forall_prop.mp (by decide)
      exact fun c hc hmem => hright.notMem (hink c hmem) hc
    have hbetween := Link.removeRaised_between (hleft.notMem (by decide)) hafter shown
    rw [← hsplit, Pattern.remove_of_not_occurs h.address, hsplit] at hbetween
    exact (List.append_cancel_left (List.append_cancel_right hbetween)).symm
  have hclean : cleanEnglish .plain label = Tidy.tidy .plain shown := by
    refine (value_cleanUpTo_of_bare (openers label) false h.bare).trans ?_
    rw [hsplit]
    exact Tidy.tidy_between hleft hright shown
  -- the nested call looks for raised addresses once more and finds none
  have hspaced : (cleanUpTo .canonical (depth + 1) .spaced shown).value
      = Tidy.tidy .spaced shown := by
    refine (value_cleanUpTo_of_bare depth true hshown).trans ?_
    rw [hremoved]
    rfl
  rw [hspaced, hclean]
  exact Tidy.exists_tidy_spaced shown

/-- The label of a link, cleaned by the call that cleans the link. -/
def cleanedLabel (target label : Text) : Text :=
  (cleanUpTo .canonical (openers (labelled target label)) .spaced
    (Link.raisedAddress.remove label).trim).value

/-- What the passes from the links on make of a text that stands in the place of a link. -/
def rereadLabel (target label text : Text) : Text :=
  let clean := cleanUpTo .canonical (openers (labelled target label)) .spaced
  Emphasis.stripAll (Link.resolveExternal (Link.afterPass (Link.classify .canonical clean) text))

/-- The two brackets of the link let the label be cleaned. -/
theorem exists_openers_labelled (target label : Text) :
    ∃ depth, openers (labelled target label) = depth + 1 := by
  refine Nat.exists_eq_succ_of_ne_zero (Nat.pos_iff_ne_zero.mp ?_)
  exact List.countP_pos_iff.mpr ⟨'[', List.mem_cons_self, by decide⟩

/-- The cleaned label is the label cleaned alone, but for white space around it. -/
theorem exists_cleanedLabel (h : PlainLink target label) :
    ∃ left right, Blank left ∧ Blank right ∧
      cleanedLabel target label = left ++ cleanEnglish .plain label ++ right := by
  obtain ⟨depth, hdepth⟩ := exists_openers_labelled target label
  rw [cleanedLabel, hdepth]
  exact exists_cleaned_label depth h

/-- The label is read by the rest of the call. -/
theorem clean_labelled_eq (h : PlainLink target label) :
    cleanEnglish .plain (labelled target label)
      = Tidy.tidy .plain (rereadLabel target label (cleanedLabel target label)) := by
  have htag : '<' ∉ labelled target label :=
    notMem_labelled h.letters (by decide) (by decide) (h.bare.notMem (by decide))
  have hbrace : '{' ∉ labelled target label :=
    notMem_labelled h.letters (by decide) (by decide) (h.bare.notMem (by decide))
  have hbare := h.bare_remove
  have hedit : Link.editLink.occurs (Link.raisedAddress.remove (labelled target label))
      = false := by
    rw [removeRaised_labelled h.letters]
    exact editLink_not_occurs_labelled h.letters h.nonempty (hbare.notMem (by decide))
  have hpair : Text.occursIn ['[', '['] (labelled target (Link.raisedAddress.remove label))
      = true := rfl
  have hclean : cleanEnglish .plain (labelled target label)
      = (cleanWith id .canonical (cleanUpTo .canonical (openers (labelled target label)))
        ⟨false, false⟩ (labelled target label)).value := rfl
  -- before the links only raised addresses are touched, and the one link is shown by its label
  rw [hclean, value_cleanWith_of_notMem false htag (Text.not_pair_infix_of_notMem hbrace _)
    (dotted_not_occurs_labelled h.letters h.nonempty (h.bare.notMem (by decide))) hedit,
    removeRaised_labelled h.letters, resolveLinks, if_pos hpair, Traced.value_bind,
    Link.value_resolveAll_labelled _ _ h.letters h.nonempty (hbare.notMem (by decide))
      (hbare.notMem (by decide)) (hbare.notMem (by decide)) h.shown]
  rfl

/-! ## Labels in which nothing is read -/

/-- Nothing of a text is read when it is shown: no known link, no external link, no emphasis, and
nothing to tidy. -/
structure Shown (text : Text) : Prop where
  link : Link.AllUnknown .canonical text
  external : Link.external.occurs text = false
  emphasis : ¬ ['\x27', '\x27'] <:+: text
  settled : Tidy.Settled text

/-- White space around such a text does not matter. -/
theorem rereadLabel_of_shown {left right : Text} (hleft : Blank left) (hright : Blank right)
    (h : Shown text) :
    rereadLabel target label (left ++ text ++ right) = left ++ text ++ right := by
  have hink : ∀ c ∈ ['[', ']', '\x27'], Unicode.isWhiteSpace c = false :=
    List.all_iff_forall_prop.mp (by decide)
  have hfirst : ∀ c ∈ ['[', ']', '\x27'], c ∉ left :=
    fun c hc => hleft.notMem (hink c hc)
  have hlast : ∀ c ∈ ['[', ']', '\x27'], c ∉ right :=
    fun c hc => hright.notMem (hink c hc)
  -- the white space around has no bracket and no apostrophe, so it adds nothing to be read
  have hlinks : Link.AllUnknown .canonical (left ++ text ++ right) := by
    rw [Link.AllUnknown, Link.contents_between (hfirst '[' (by decide)) (hfirst ']' (by decide))
      (hlast '[' (by decide)) (hlast ']' (by decide))]
    exact h.link
  have hkept : ∀ clean : Text → Traced Event Text,
      Link.afterPass (Link.classify .canonical clean) (left ++ text ++ right)
        = left ++ text ++ right := by
    intro clean
    rw [Link.afterPass, Link.resolveOnce_kept (hlinks.classify_eq clean)]
    rfl
  rw [rereadLabel, hkept, Link.resolveExternal_between (hfirst '[' (by decide))
    (hlast '[' (by decide)) (hlast ']' (by decide)), Link.resolveExternal_of_not_occurs h.external,
    List.append_assoc, Emphasis.stripAll_append_of_notMem (hfirst '\x27' (by decide)),
    Emphasis.stripAll_append (hlast '\x27' (by decide)),
    Emphasis.stripAll_of_not_infix h.emphasis]

/-- A cleaned label is trimmed. -/
theorem trim_cleanEnglish_of_bare (h : Bare label) :
    (cleanEnglish .plain label).trim = cleanEnglish .plain label := by
  have htidied : cleanEnglish .plain label = Tidy.tidy .plain (Link.raisedAddress.remove label) :=
    value_cleanUpTo_of_bare (openers label) false h
  rw [htidied, Tidy.tidy_plain, Unicode.trim_nfc, Text.trim_trim]

/-- **A link shows its label, cleaned by itself and then read once more with the text around it.**
Cleaned by itself the label is what it would be alone, but for white space around it. If nothing is
read in that, the link is cleaned like its label. -/
theorem clean_labelled (target label : Text) (h : PlainLink target label) :
    (cleanedLabel target label).trim = cleanEnglish .plain label ∧
      cleanEnglish .plain (labelled target label)
        = Tidy.tidy .plain (rereadLabel target label (cleanedLabel target label)) ∧
      (Shown (cleanEnglish .plain label) →
        cleanEnglish .plain (labelled target label) = cleanEnglish .plain label) := by
  obtain ⟨left, right, hleft, hright, hcleaned⟩ := exists_cleanedLabel h
  refine ⟨?_, clean_labelled_eq h, fun hshown => ?_⟩
  · rw [hcleaned, Text.trim_append_blank hright, Text.trim_blank_append hleft,
      trim_cleanEnglish_of_bare h.bare]
  · have htidied : cleanEnglish .plain label = Tidy.tidy .plain (Link.raisedAddress.remove label) :=
      value_cleanUpTo_of_bare (openers label) false h.bare
    have hsettled := hshown.settled
    rw [clean_labelled_eq h, hcleaned, rereadLabel_of_shown hleft hright hshown,
      Tidy.tidy_between hleft hright, htidied]
    rw [htidied] at hsettled
    exact Tidy.tidy_tidy hsettled

/-- A tag that is spelled by references is shown, for tags are not looked for again. -/
theorem clean_labelled_tag :
    PlainLink "a".toList " &lt;b&gt; x".toList ∧
      Shown (cleanEnglish .plain " &lt;b&gt; x".toList) ∧
      cleanEnglish .plain (labelled "a".toList " &lt;b&gt; x".toList)
        = cleanEnglish .plain " &lt;b&gt; x".toList := by
  have hlink : PlainLink "a".toList " &lt;b&gt; x".toList :=
    ⟨by decide, List.all_iff_forall_prop.mp (by decide), by decide, by decide +kernel,
      by decide +kernel⟩
  have hcleaned : cleanEnglish .plain " &lt;b&gt; x".toList = "<b> x".toList := by decide +kernel
  have hshown : Shown (cleanEnglish .plain " &lt;b&gt; x".toList) := by
    rw [hcleaned]
    exact ⟨by decide +kernel, by decide +kernel, by decide +kernel,
      ⟨by decide +kernel, by decide, by decide⟩⟩
  exact ⟨hlink, hshown, (clean_labelled _ _ hlink).2.2 hshown⟩

/-- A reference that spells a reference is decoded once where it stands alone, and twice in a
label. -/
theorem clean_labelled_reference :
    (∀ c ∈ "a".toList, c.isAlpha = true) ∧ Bare "&amp;amp;".toList ∧
      Text.trim "&amp;amp;".toList ≠ [] ∧ cleanEnglish .plain "&amp;amp;".toList = "&amp;".toList ∧
      cleanEnglish .plain (labelled "a".toList "&amp;amp;".toList) = "&".toList := by
  have hletters : ∀ c ∈ "a".toList, c.isAlpha = true := List.all_iff_forall_prop.mp (by decide)
  exact ⟨hletters, by decide, by decide, by decide +kernel, by decide +kernel⟩

end WikiText
