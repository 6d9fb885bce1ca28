import WikiText.Proofs.Openers.Links
import WikiText.Proofs.Text.Squeeze

/-!
# The place of a label in its link

A link is shown by a part of its content (`sublist_of_read`). For the brackets of a label it matters what
stands next to it there: shown by itself, a label loses its neighbours, and a bracket at its end may find
another partner. But a label with a bracket is not cut out just anywhere (`placed_of_read`). No single bracket
stands right before it, and a bracket at its end stands before white space, which is trimmed, before the
brackets that close the link, or before the number sign of a section (`endsLabel`).

If no single bracket of the content stands before such a character, then labels that are shown as they are
written bring no brackets together (`harmless_classify_pure`).
-/

namespace WikiText.Link

open Unicode (isWhiteSpace isWordChar)

/-! ## Places -/

/-- Whether a label with a bracket at its end may stop before a character. -/
def endsLabel (c : Char) : Bool :=
  isWhiteSpace c || c = ']' || c = '#'

/-- A label stands in a content where none of its brackets has a partner outside of it: no single bracket
comes right before the label, and if it has one at its end, it stops before a character that ends labels. -/
def Stands (content label : Text) : Prop :=
  ∃ front back, content = front ++ label ++ back ∧ endsSingle front = false ∧
    (endsSingle label = true → ∃ c rest, back ++ [']'] = c :: rest ∧ endsLabel c = true)

/-- A text that ends in a single bracket ends in a bracket. -/
theorem eq_concat_of_endsSingle {text : Text} (h : endsSingle text = true) :
    ∃ front, text = front ++ ['['] := by
  rcases List.eq_nil_or_concat text with rfl | ⟨front, c, rfl⟩
  · cases h
  · by_cases hc : c = '['
    · exact ⟨front, by rw [hc, List.concat_eq_append]⟩
    · rw [List.concat_eq_append, endsSingle_concat hc] at h
      cases h

/-- White space around a label may be left out. -/
theorem Stands.of_blank {content left label right : Text} (hleft : Text.Blank left)
    (hright : Text.Blank right) (h : Stands content (left ++ label ++ right)) : Stands content label := by
  obtain ⟨front, back, rfl, hfront, hback⟩ := h
  obtain ⟨-, hendsleft, -⟩ := plain_of_notMem (hleft.notMem (c := '[') (by decide))
  refine ⟨front ++ left, right ++ back, by simp, by rw [endsSingle_append hfront, hendsleft], ?_⟩
  intro hends
  cases right with
  | nil =>
    rw [List.append_nil, endsSingle_append hendsleft] at hback
    exact hback hends
  | cons w right =>
    refine ⟨w, right ++ back ++ [']'], by simp, ?_⟩
    rw [endsLabel, hright w List.mem_cons_self]
    rfl

/-- A label that stands in a content stands in it trimmed. -/
theorem Stands.trim {content label : Text} (h : Stands content label) : Stands content label.trim := by
  obtain ⟨left, right, hleft, hright, htext⟩ := Text.exists_eq_trim label
  exact Stands.of_blank hleft hright (htext ▸ h)

/-- Behind another character, the end of what stands somewhere stands there too. -/
theorem Stands.of_append_cons {content front label : Text} {c : Char} (hc : c ≠ '[')
    (h : Stands content (front ++ c :: label)) : Stands content label := by
  obtain ⟨before, back, rfl, hbefore, hback⟩ := h
  have hconcat := endsSingle_concat hc front
  rw [List.append_cons, endsSingle_append hconcat] at hback
  refine ⟨before ++ (front ++ [c]), back, by simp, ?_, hback⟩
  rw [endsSingle_append hbefore, hconcat]

/-- A label without brackets may stand anywhere. -/
def Placed (content label : Text) : Prop :=
  '[' ∉ label ∨ Stands content label

/-! ## Labels of links -/

/-- Behind a plain target comes nothing or a section. -/
theorem endsPlain_cases {text : Text} (h : endsPlain text = true) : text = [] ∨ ∃ name, text = '#' :: name := by
  cases text with
  | nil => exact .inl rfl
  | cons c name =>
    simp only [endsPlain, Bool.and_eq_true, decide_eq_true_eq] at h
    exact .inr ⟨name, by rw [h.1]⟩

/-- A plain target stands in its content. -/
theorem placed_of_plainTarget {content target : Text} (h : plainTarget? content = some target) :
    Placed content target := by
  -- with or without a colon before it, the page is behind a text without brackets
  have hpage : ∃ front, '[' ∉ front ∧ content = front ++ (if content.trimStart.head? = some ':'
      then content.trimStart.drop 1 else content.trimStart) := by
    have hspace := notMem_takeWhile_isWhiteSpace content
    have hsplit : content.takeWhile isWhiteSpace ++ content.trimStart = content :=
      List.takeWhile_append_dropWhile
    split
    · next hcolon =>
      obtain ⟨page, hbody⟩ := List.head?_eq_some_iff.mp hcolon
      refine ⟨content.takeWhile isWhiteSpace ++ [':'], by simp [hspace], ?_⟩
      rw [hbody] at hsplit ⊢
      simpa using hsplit.symm
    · exact ⟨_, hspace, hsplit.symm⟩
  simp only [plainTarget?] at h
  generalize (if content.trimStart.head? = some ':' then content.trimStart.drop 1
    else content.trimStart) = page at h hpage
  obtain ⟨front, hfront, rfl⟩ := hpage
  have hstands (hend : endsPlain (page.dropWhile (!isOneOf "]|#<>:&" ·)) = true) :
      Stands (front ++ page) (page.takeWhile (!isOneOf "]|#<>:&" ·)) := by
    refine ⟨front, page.dropWhile (!isOneOf "]|#<>:&" ·), ?_, (plain_of_notMem hfront).2.1, fun _ => ?_⟩
    · rw [List.append_assoc, List.takeWhile_append_dropWhile]
    · rcases endsPlain_cases hend with hnil | ⟨name, hname⟩
      · exact ⟨']', [], by rw [hnil]; rfl, rfl⟩
      · exact ⟨'#', name ++ [']'], by rw [hname]; rfl, rfl⟩
  obtain ⟨right, hright, htrimmed⟩ := Text.exists_eq_trimEnd (page.takeWhile (!isOneOf "]|#<>:&" ·))
  split_ifs at h with hend hempty hcolon hblank
  · left
    obtain ⟨c, hlast, rfl⟩ := Option.map_eq_some_iff.mp h
    intro hmem
    rw [← List.mem_singleton.mp hmem] at hlast
    exact notMem_takeWhile_isWhiteSpace _ (List.mem_of_getLast? hlast)
  · -- a target of white space is shown by its first character
    cases h
    rw [List.isEmpty_iff.mp hblank, List.nil_append] at htrimmed
    rw [htrimmed]
    exact .inl fun hmem => hright.notMem (by decide) (List.mem_of_mem_take hmem)
  · cases h
    refine .inr (Stands.of_blank Text.blank_nil hright ?_)
    rw [List.nil_append, ← htrimmed]
    exact hstands (by simpa using hend)

/-- A character that is not skipped is in a text only if it is in the rest. -/
theorem notMem_of_dropWhile {p : Char → Bool} {c : Char} (hc : p c = false) {text : Text}
    (h : c ∉ text.dropWhile p) : c ∉ text := by
  rw [← List.takeWhile_append_dropWhile (p := p) (l := text), List.mem_append, not_or]
  refine ⟨fun hmem => ?_, h⟩
  rw [List.mem_takeWhile_imp hmem] at hc
  cases hc

/-- The end of a qualified target has no opening bracket. -/
theorem notMem_of_endsQualified {text : Text} (h : endsQualified text = true) : '[' ∉ text := by
  have hafter : ∀ after : Text, (after = [] || after = ['|']) = true → '[' ∉ after := by
    intro after h hmem
    rcases Bool.or_eq_true_iff.mp h with hnil | hbar
    · rw [of_decide_eq_true hnil] at hmem
      cases hmem
    · rw [of_decide_eq_true hbar] at hmem
      exact absurd hmem (by decide)
  simp only [endsQualified] at h
  split at h
  · exact notMem_of_dropWhile (by decide) (hafter _ h)
  · exact hafter _ h

/-- A link with a namespace has no brackets in it. -/
theorem notMem_of_qualified {content space page : Text} (h : qualified? content = some (space, page)) :
    '[' ∉ content := by
  simp only [qualified?] at h
  split at h
  · next target hcolon =>
    have hend : endsQualified ((Text.trimStart target).dropWhile (!isOneOf "[]#|<>" ·)) = true := by
      by_contra hend
      rw [if_pos (by simp [Bool.eq_false_of_not_eq_true hend])] at h
      cases h
    have hnamed : '[' ∉ Text.trimStart target := notMem_of_dropWhile (by decide) (notMem_of_endsQualified hend)
    have htarget : '[' ∉ target := notMem_of_dropWhile (by decide) hnamed
    -- before the colon there are word characters between white space
    have hrest : '[' ∉ Text.trimStart ((Text.trimStart content).dropWhile isWordChar) := by
      rw [hcolon]
      simp [htarget]
    have hbody := notMem_of_dropWhile (p := isWordChar) (by decide) (notMem_of_dropWhile (by decide) hrest)
    exact notMem_of_dropWhile (by decide) hbody
  · cases h

/-- A link without a label has no opening bracket within it. -/
theorem notMem_of_isUnlabelled {content : Text} (h : isUnlabelled content = true) : '[' ∉ content := by
  have hend := (Bool.and_eq_true_iff.mp h).1
  have hbody : '[' ∉ Text.trimStart content := notMem_of_dropWhile (by decide) (notMem_of_endsQualified hend)
  exact notMem_of_dropWhile (by decide) hbody

/-- A parameter stands behind a bar. If it ends in a bracket, it is the last one, for the next bar would stand
in brackets. -/
theorem stands_of_mem_parameters {content target parameter : Text} {parameters : List Text}
    (hpieces : splitBars 0 content = target :: parameters) (hmem : parameter ∈ parameters) :
    Stands content parameter := by
  obtain ⟨earlier, later, rfl⟩ := List.append_of_mem hmem
  have hcontent := intercalate_splitBars 0 content
  rw [hpieces, ← List.cons_append, intercalate_append (List.cons_ne_nil _ _) (List.cons_ne_nil _ _)] at hcontent
  have hbar := endsSingle_concat (c := '|') (by decide) (['|'].intercalate (target :: earlier))
  cases later with
  | nil =>
    refine ⟨['|'].intercalate (target :: earlier) ++ ['|'], [], by simpa using hcontent.symm, hbar, ?_⟩
    intro _
    exact ⟨']', [], rfl, rfl⟩
  | cons next later =>
    rw [List.intercalate_cons_of_ne_nil (List.cons_ne_nil next later)] at hcontent
    refine ⟨['|'].intercalate (target :: earlier) ++ ['|'],
      '|' :: ['|'].intercalate (next :: later), by simpa using hcontent.symm, hbar, ?_⟩
    -- a parameter that ends in a bracket would leave the next bar inside brackets, where nothing is cut
    intro hends
    obtain ⟨front, rfl⟩ := eq_concat_of_endsSingle hends
    have hleft : target :: earlier ++ [front ++ ['[']] ≠ [] := by simp
    have hdepth := depth_of_splitBars_eq_append hleft (List.cons_ne_nil next later) (by simpa using hpieces)
    rw [intercalate_append (List.cons_ne_nil _ _) (List.cons_ne_nil _ _), List.intercalate_singleton,
      List.append_cons, ← List.append_assoc, List.foldl_append] at hdepth
    cases hdepth

/-- The description of an image stands where its parameter does. -/
theorem stands_of_description {content parameter description : Text} (hparameter : Stands content parameter)
    (h : description? parameter = some description) : Stands content description := by
  obtain ⟨⟨_, rest⟩, hrun, hrest⟩ := Option.bind_eq_some_iff.mp h
  obtain ⟨_, _, hblanks, hrun⟩ := Scanner.exists_of_bind hrun
  obtain ⟨_, _, hname, hrun⟩ := Scanner.exists_of_bind hrun
  obtain ⟨_, _, hblanks', hequals⟩ := Scanner.exists_of_bind hrun
  have hsuffix := (Scanner.suffix _ hblanks').trans
    ((Scanner.suffix _ hname).trans (Scanner.suffix _ hblanks))
  obtain rfl := Scanner.run_one_eq_some.mp hequals
  obtain ⟨front, rfl⟩ := hsuffix
  simp only at hrest
  split_ifs at hrest
  cases hrest
  exact (hparameter.of_append_cons (by decide)).trim

/-- **Where labels stand.** A label that is read off the content of a link has no brackets, or it stands where
none of them has a partner outside. -/
theorem placed_of_read {namespaces : Namespaces} {content label : Text}
    (h : (read namespaces content).label? = some label) : Placed content label := by
  -- a reading of a qualified or an unlabelled target asks for a content without brackets
  have hplain (hcontent : '[' ∉ content) : Placed content label :=
    .inl fun hmem => hcontent ((sublist_of_read h).mem hmem)
  unfold read at h
  split at h
  · cases h
  · split at h
    · next target htarget =>
      cases h
      exact placed_of_plainTarget htarget
    · split at h
      · next space page hqualified => exact hplain (notMem_of_qualified hqualified)
      · split at h
        · next hunlabelled => exact hplain (notMem_of_isUnlabelled hunlabelled)
        · split at h
          · next target parameters hpieces =>
            obtain ⟨parameter, hmem, hlabel⟩ := exists_of_readPiped h
            have hparameter := stands_of_mem_parameters hpieces hmem
            rcases hlabel with rfl | hdescription
            · exact .inr hparameter.trim
            · exact .inr (stands_of_description hparameter hdescription)
          · cases h

/-! ## Labels shown as they are written -/

variable {ε : Type}

/-- A label brings no brackets of its own together, if no single bracket of the content stands before a
character that ends labels. -/
theorem Placed.unjoining {content label : Text} (h : Placed content label)
    (hsingle : singleBefore endsLabel (content ++ [']']) = false) : Unjoining endsLabel content label := by
  rcases h with hplain | ⟨front, back, rfl, hfront, hback⟩
  · obtain ⟨hnone, hends, hwithin⟩ := plain_of_notMem hplain
    exact ⟨by rw [hnone]; exact Nat.zero_le _, hends, hwithin endsLabel⟩
  · rw [List.append_assoc, List.append_assoc, singleBefore_append endsLabel hfront,
      Bool.or_eq_false_iff] at hsingle
    have hends : endsSingle label = false := by
      -- behind the label stands a bar or a bracket, and the bracket before it would be single
      by_contra hends
      obtain ⟨c, rest, hnext, hc⟩ := hback (Bool.eq_true_of_not_eq_false hends)
      have hne : c ≠ '[' := by
        rintro rfl
        exact absurd hc (by decide)
      rw [hnext, singleBefore_of_endsSingle (Bool.eq_true_of_not_eq_false hends) hne hc] at hsingle
      cases hsingle.2
    rw [singleBefore_append endsLabel hends, Bool.or_eq_false_iff] at hsingle
    refine ⟨?_, hends, hsingle.2.1⟩
    rw [List.append_assoc, pairs_append hfront, pairs_append hends]
    omega

/-- A description in the place of its image brings no more brackets together than by itself, for a letter
follows the bracket before it. -/
theorem Unjoining.pictured {kind : Char → Bool} (hkind : kind 'A' = false) {content description : Text}
    (h : Unjoining kind content description) :
    Unjoining kind content ("[Alt: ".toList ++ description ++ [']']) := by
  obtain ⟨hle, hends, hwithin⟩ := h
  have hfront : endsSingle "[Alt: ".toList = false := rfl
  have hnone : pairs "[Alt: ".toList = 0 := rfl
  have hsingle : singleBefore kind "[Alt: ".toList = false := by
    simp [singleBefore, hkind]
  constructor
  · rw [List.append_assoc, pairs_append hfront, pairs_append_cons (by decide), hnone, Nat.zero_add]
    exact hle
  · exact endsSingle_concat (by decide) _
  · rw [List.append_assoc, singleBefore_append kind hfront, singleBefore_append kind hends, hsingle, hwithin]
    rfl

/-- A link brings no brackets together if the label it is shown by does not. -/
theorem harmless_classify {kind : Char → Bool} (hkind : kind 'A' = false) {namespaces : Namespaces}
    {clean : Text → Traced ε Text} {content : Text}
    (hlabel : ∀ label, (read namespaces content).label? = some label →
      singleBefore kind (content ++ [']']) = false → Unjoining kind content (clean label).value) :
    Harmless kind (classify namespaces clean) content := by
  intro text haction hsingle
  rw [classify] at haction
  cases hread : read namespaces content with
  | category => rw [hread] at haction; cases haction
  | hidden =>
    rw [hread] at haction
    cases haction
    exact ⟨Nat.zero_le _, rfl, rfl⟩
  | shown label =>
    rw [hread] at haction
    cases haction
    exact hlabel label (by rw [hread]; rfl) hsingle
  | pictured description =>
    rw [hread] at haction
    cases haction
    exact (hlabel description (by rw [hread]; rfl) hsingle).pictured hkind
  | unknown => rw [hread] at haction; cases haction

/-- **Labels that are shown as they are written** bring no brackets together, whatever the link. -/
theorem harmless_classify_pure (namespaces : Namespaces) (content : Text) :
    Harmless endsLabel (classify (ε := ε) namespaces pure) content :=
  harmless_classify (by decide) fun _ hlabel hsingle => (placed_of_read hlabel).unjoining hsingle

end WikiText.Link
