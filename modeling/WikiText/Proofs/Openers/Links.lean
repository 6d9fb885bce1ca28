import Mathlib.Tactic.SplitIfs
import WikiText.Proofs.Link.Bars
import WikiText.Proofs.Link.Kept
import WikiText.Proofs.Openers.Passes

/-!
# Openers of resolved links

What is read off the content of a link is part of the content (`sublist_of_read`), so the label that
is cleaned has no more openers than the content, which has two fewer than the link. A description of
an image is shown behind one bracket of its own. Over the outline of a text it follows that links are
resolved without adding openers, and that only contents with fewer openers than the text are resolved
on the way (`exists_of_mem_trace_resolveOnce`).
-/

namespace WikiText.Link

open Unicode (isWhiteSpace isWordChar)

/-! ## Reading -/

/-- The last character of a text that is skipped. -/
theorem sublist_of_getLast {p : Char → Bool} {c : Char} {text : Text}
    (h : (text.takeWhile p).getLast? = some c) : [c].Sublist text :=
  (List.singleton_sublist.mpr (List.mem_of_getLast? h)).trans (List.takeWhile_sublist p)

/-- A plain target is written in the content. -/
theorem sublist_of_plainTarget {content target : Text} (h : plainTarget? content = some target) :
    target.Sublist content := by
  have hpage : (if content.trimStart.head? = some ':' then content.trimStart.drop 1
      else content.trimStart).Sublist content := by
    split
    · exact (List.drop_sublist 1 _).trans (Text.trimStart_suffix content).sublist
    · exact (Text.trimStart_suffix content).sublist
  simp only [plainTarget?] at h
  -- with or without a colon before it, the page is part of the content
  generalize (if content.trimStart.head? = some ':' then content.trimStart.drop 1
    else content.trimStart) = page at h hpage
  have htarget := (List.takeWhile_sublist (!isOneOf "]|#<>:&" ·)).trans hpage
  split_ifs at h with hend hempty hcolon htrimmed
  · obtain ⟨c, hlast, rfl⟩ := Option.map_eq_some_iff.mp h
    exact sublist_of_getLast hlast
  · cases h
    exact (List.take_sublist 1 _).trans htarget
  · cases h
    exact (Text.trimEnd_sublist _).trans htarget

/-- The page of a qualified target is written in the content. -/
theorem sublist_of_qualified {content space page : Text}
    (h : qualified? content = some (space, page)) : page.Sublist content := by
  simp only [qualified?] at h
  split at h
  · next target hcolon =>
    have htarget : target <:+ content := by
      have hrest := (Text.trimStart_suffix (content.trimStart.dropWhile isWordChar)).trans
        ((List.dropWhile_suffix _).trans (Text.trimStart_suffix content))
      rw [hcolon] at hrest
      exact (List.suffix_cons _ _).trans hrest
    have hnamed := (Text.trimStart_suffix target).trans htarget
    split_ifs at h with hempty hnone hnone
    · cases h
      cases hlast : (target.takeWhile isWhiteSpace).getLast? with
      | none => exact List.nil_sublist content
      | some c => exact (sublist_of_getLast hlast).trans htarget.sublist
    · cases h
      exact (Text.trimEnd_sublist _).trans ((List.takeWhile_sublist _).trans hnamed.sublist)
  · cases h

/-- The target that is shown is written in the content. -/
theorem writtenTarget_sublist (content : Text) : (writtenTarget content).Sublist content := by
  have hinner : (Text.dropWhileEnd (isOneOf " []") (content.dropWhile (isOneOf " []"))).Sublist
      content :=
    (Text.dropWhileEnd_sublist _ _).trans (List.dropWhile_suffix _).sublist
  have htarget := (List.takeWhile_sublist (· ≠ '|')).trans hinner
  simp only [writtenTarget]
  split
  · next target hcolon =>
    rw [hcolon] at htarget
    exact (List.sublist_cons_self _ _).trans htarget
  · exact htarget

/-- A piece between bars is part of the text. -/
theorem sublist_of_mem_splitBars {depth : Nat} {text piece : Text}
    (h : piece ∈ splitBars depth text) : piece.Sublist text := by
  obtain ⟨i, hi⟩ := List.mem_iff_getElem?.mp h
  have hmem : piece ∈ (splitBars depth text).intersperse ['|'] :=
    List.mem_of_getElem? (List.getElem?_intersperse_two_mul.trans hi)
  have hsub := List.sublist_flatten_of_mem hmem
  rwa [← List.intercalate, intercalate_splitBars] at hsub

/-- The description of an image is written in its parameter. -/
theorem sublist_of_description {parameter description : Text}
    (h : description? parameter = some description) : description.Sublist parameter := by
  obtain ⟨⟨_, rest⟩, hrun, hrest⟩ := Option.bind_eq_some_iff.mp h
  simp only at hrest
  split_ifs at hrest
  cases hrest
  exact (Text.trim_sublist rest).trans (Scanner.suffix _ hrun).sublist

/-- The text that a link is shown by, before it is cleaned. -/
def Reading.label? : Reading → Option Text
  | shown label => some label
  | pictured description => some description
  | _ => none

/-- A label is a parameter, or the description that a parameter gives. -/
theorem exists_of_readPiped {namespaces : Namespaces} {target : Text} {parameters : List Text}
    {label : Text} (h : (readPiped namespaces target parameters).label? = some label) :
    ∃ parameter ∈ parameters, label = parameter.trim ∨ description? parameter = some label := by
  unfold readPiped at h
  split at h
  · cases h
  · split at h
    · cases h
    · split at h
      · unfold readImage at h
        split at h
        · next description hfound =>
          obtain ⟨parameter, hmem, hdescription⟩ := List.exists_of_findSome?_eq_some hfound
          simp only at h
          split at h
          · cases h
          · cases h
            exact ⟨parameter, hmem, .inr hdescription⟩
        · cases h
      · split at h
        · next found hfound =>
          cases h
          obtain ⟨parameter, hmem, rfl⟩ := List.mem_map.mp (List.mem_of_find?_eq_some hfound)
          exact ⟨parameter, List.mem_reverse.mp hmem, .inl rfl⟩
        · cases h

/-- What is read off the content of a link is part of it. -/
theorem sublist_of_read {namespaces : Namespaces} {content label : Text}
    (h : (read namespaces content).label? = some label) : label.Sublist content := by
  unfold read at h
  -- the ways to read a link, in the order in which they are tried
  split at h
  · cases h
  · split at h
    · next target htarget =>
      cases h
      exact sublist_of_plainTarget htarget
    · split at h
      · next space page hqualified =>
        split at h
        · cases h
        · split at h
          · cases h
            exact sublist_of_qualified hqualified
          · cases h
            exact writtenTarget_sublist content
      · split at h
        · cases h
          exact writtenTarget_sublist content
        · split at h
          · next target parameters hsplit =>
            obtain ⟨parameter, hmem, hlabel⟩ := exists_of_readPiped h
            have hpiece : parameter ∈ splitBars 0 content :=
              hsplit ▸ List.mem_cons_of_mem target hmem
            have hpart : label.Sublist parameter := by
              rcases hlabel with rfl | hdescription
              · exact Text.trim_sublist parameter
              · exact sublist_of_description hdescription
            exact hpart.trans (sublist_of_mem_splitBars hpiece)
          · cases h

/-! ## What becomes of a link -/

variable {ε : Type}

/-- A link that does not stay leaves fewer openers than it and what stands before it had. -/
def Modest (resolve : Text → Traced ε Action) : Prop :=
  ∀ before content, (resolve content).value ≠ .keep →
    openers ((resolve content).value.edit before content) < openers before + openers content + 2

/-- Two opening brackets are two openers. -/
theorem openers_brackets (text : Text) : openers ('[' :: '[' :: text) = openers text + 2 := by
  rw [openers_cons_of_isOpener rfl, openers_cons_of_isOpener rfl]

/-- A link that stays keeps its openers. -/
theorem openers_edit_keep (before content : Text) :
    openers (Action.keep.edit before content) = openers before + openers content + 2 := by
  have hclose : openers [']', ']'] = 0 := rfl
  rw [Action.edit, openers_append, openers_brackets, openers_append, hclose]
  omega

/-- A link that is closed has no more openers than were written for it. -/
theorem Modest.edit_le {resolve : Text → Traced ε Action} (h : Modest resolve)
    (before content : Text) :
    openers ((resolve content).value.edit before content) ≤ openers before + openers content + 2 := by
  by_cases hkeep : (resolve content).value = .keep
  · rw [hkeep, openers_edit_keep]
  · exact (h before content hkeep).le

/-- A link that is replaced by its cleaned label, or by a description behind a bracket. -/
theorem modest_classify (namespaces : Namespaces) {clean : Text → Traced ε Text}
    (hclean : ∀ text, openers (clean text).value ≤ openers text) :
    Modest (classify namespaces clean) := by
  intro before content hchanged
  have hlabel {label : Text} (h : (read namespaces content).label? = some label) :
      openers (clean label).value ≤ openers content :=
    (hclean label).trans (openers_le_of_sublist (sublist_of_read h))
  rw [classify]
  cases hread : read namespaces content with
  | category =>
    have hbefore := openers_le_of_sublist (Text.trimEnd_sublist before)
    show openers (Text.trimEnd before) < _
    omega
  | hidden =>
    show openers (before ++ []) < _
    rw [List.append_nil]
    omega
  | shown label =>
    have hshown := hlabel (congrArg Reading.label? hread)
    show openers (before ++ (clean label).value) < _
    rw [openers_append]
    omega
  | pictured description =>
    have hshown := hlabel (congrArg Reading.label? hread)
    -- two brackets pay for the one before a description
    have hbracket : openers "[Alt: ".toList = 1 := by decide
    have hclose : openers [']'] = 0 := rfl
    show openers (before ++ ("[Alt: ".toList ++ (clean description).value ++ [']'])) < _
    rw [openers_append, openers_append, openers_append]
    omega
  | unknown =>
    rw [classify, hread] at hchanged
    exact absurd rfl hchanged

/-- What is noted about a link is noted while a part of its content is cleaned. -/
theorem exists_of_mem_trace_classify {namespaces : Namespaces} {clean : Text → Traced ε Text}
    {content : Text} {event : ε} (h : event ∈ (classify namespaces clean content).trace) :
    ∃ label, openers label ≤ openers content ∧ event ∈ (clean label).trace := by
  rw [classify] at h
  cases hread : read namespaces content with
  | shown label =>
    rw [hread, Reading.act, Traced.trace_bind, Traced.trace_pure, List.append_nil] at h
    have hlabel := sublist_of_read (congrArg Reading.label? hread)
    exact ⟨label, openers_le_of_sublist hlabel, h⟩
  | pictured description =>
    rw [hread, Reading.act, Traced.trace_bind, Traced.trace_pure, List.append_nil] at h
    have hdescription := sublist_of_read (congrArg Reading.label? hread)
    exact ⟨description, openers_le_of_sublist hdescription, h⟩
  | category => rw [hread] at h; cases h
  | hidden => rw [hread] at h; cases h
  | unknown => rw [hread] at h; cases h

/-! ## Passes over links -/

/-- The brackets of a link are two openers. -/
theorem Outline.openers_text_link (content rest : Outline) :
    openers (link content rest).text = openers content.text + openers rest.text + 2 := by
  rw [text, openers_brackets, openers_append, openers_cons_of_not rfl, openers_cons_of_not rfl]

section

variable {resolve : Text → Traced ε Action} (h : Modest resolve)

include h

/-- Resolving an outline takes openers away, unless all its links stay. -/
theorem Outline.openers_resolve_lt_or_kept (outline : Outline) (before : Text) :
    openers (outline.resolve resolve before).value < openers before + openers outline.text ∨
      ((outline.resolve resolve before).value = before ++ outline.text ∧
        ∀ content ∈ outline.contents, (resolve content).value = .keep) := by
  induction outline generalizing before with
  | done => exact .inr ⟨(List.append_nil before).symm, by simp [contents]⟩
  | char c rest ih =>
    rw [Outline.text, openers_cons_eq, Outline.resolve]
    rcases ih (before ++ [c]) with hlt | ⟨hvalue, hkept⟩
    · left
      rw [openers_append] at hlt
      omega
    · exact .inr ⟨by rw [hvalue, List.append_assoc]; rfl, hkept⟩
  | link content rest ihcontent ihrest =>
    rw [Outline.resolve, openers_text_link]
    simp only [Traced.value_bind]
    have hrest := ihrest ((resolve (content.resolve resolve []).value).value.edit before
      (content.resolve resolve []).value)
    have hrest_le := hrest.elim Nat.le_of_lt fun hkept => by rw [hkept.1, openers_append]
    have hedit := h.edit_le before (content.resolve resolve []).value
    rcases ihcontent [] with hlt | ⟨hinner, hkeptinner⟩
    · left
      rw [openers_nil] at hlt
      omega
    -- the links within stay, so the link itself is asked about with the text it was written with
    · rw [List.nil_append] at hinner
      rw [hinner] at hrest hrest_le ⊢
      by_cases hkeep : (resolve content.text).value = .keep
      · rw [hkeep] at hrest ⊢
        rcases hrest with hlt | ⟨hvalue, hkeptrest⟩
        · left
          rw [openers_edit_keep] at hlt
          omega
        · refine .inr ⟨by rw [hvalue]; simp [Action.edit, Outline.text], ?_⟩
          simp only [contents, List.forall_mem_append, List.forall_mem_cons]
          exact ⟨hkeptinner, hkeep, hkeptrest⟩
      · left
        have hlt := h before content.text hkeep
        omega
  | unclosed content ih =>
    rw [Outline.resolve, Traced.value_bind, Traced.value_pure, Outline.text]
    rcases ih [] with hlt | ⟨hvalue, hkept⟩
    · left
      rw [openers_nil] at hlt
      rw [openers_append, openers_brackets, openers_brackets]
      omega
    · exact .inr ⟨by rw [hvalue, List.nil_append], hkept⟩

/-- Resolving an outline adds no openers. -/
theorem Outline.openers_resolve_le (outline : Outline) (before : Text) :
    openers (outline.resolve resolve before).value ≤ openers before + openers outline.text := by
  rcases outline.openers_resolve_lt_or_kept h before with hlt | ⟨hvalue, -⟩
  · exact hlt.le
  · rw [hvalue, openers_append]

/-- What is noted while an outline is resolved is noted about a link, whose content has fewer openers
once the links in it are resolved. -/
theorem Outline.exists_of_mem_trace {outline : Outline} {before : Text} {event : ε}
    (hmem : event ∈ (outline.resolve resolve before).trace) :
    ∃ content, openers content < openers outline.text ∧ event ∈ (resolve content).trace := by
  induction outline generalizing before with
  | done => cases hmem
  | char c rest ih =>
    obtain ⟨content, hlt, hevent⟩ := ih hmem
    exact ⟨content, hlt.trans_le (openers_le_cons c rest.text), hevent⟩
  | link content rest ihcontent ihrest =>
    have htext := openers_text_link content rest
    simp only [Outline.resolve, Traced.trace_bind, List.mem_append] at hmem
    rcases hmem with hinside | hhere | hbehind
    · obtain ⟨inner, hlt, hevent⟩ := ihcontent hinside
      exact ⟨inner, by omega, hevent⟩
    · -- the link is resolved on its content as the links inside have left it
      have hcontent := content.openers_resolve_le h []
      rw [openers_nil] at hcontent
      exact ⟨(content.resolve resolve []).value, by omega, hhere⟩
    · obtain ⟨inner, hlt, hevent⟩ := ihrest hbehind
      exact ⟨inner, by omega, hevent⟩
  | unclosed content ih =>
    rw [Outline.resolve, Traced.trace_bind, Traced.trace_pure, List.append_nil] at hmem
    obtain ⟨inner, hlt, hevent⟩ := ih hmem
    have htext := openers_brackets content.text
    exact ⟨inner, hlt.trans_le (by rw [Outline.text]; omega), hevent⟩

/-- A pass takes openers away, unless all links of the text stay. -/
theorem openers_resolveOnce_lt_or_kept (text : Text) :
    openers (resolveOnce resolve text).value < openers text ∨
      ∀ content ∈ contents text, (resolve content).value = .keep := by
  obtain ⟨outline, left, houtline⟩ := Outlined.exists_outlined none text
  have htext := houtline.text_eq
  rw [houtline.left_eq_none rfl, Option.map_none, Option.getD_none, List.append_nil] at htext
  rw [contents, houtline.resolveOnce_eq, houtline.resolveOnce_eq, Outline.trace_resolve_noteContent,
    htext]
  rcases outline.openers_resolve_lt_or_kept h [] with hlt | ⟨-, hkept⟩
  · exact .inl (by simpa using hlt)
  · exact .inr hkept

/-- A pass over links adds no openers. -/
theorem openers_resolveOnce_le (text : Text) :
    openers (resolveOnce resolve text).value ≤ openers text := by
  obtain ⟨outline, rfl, hresolve⟩ := exists_resolveOnce_eq resolve text
  rw [hresolve]
  simpa using outline.openers_resolve_le h []

/-- What is noted in a pass is noted for the content of a link, which has fewer openers. -/
theorem exists_of_mem_trace_resolveOnce {text : Text} {event : ε}
    (hmem : event ∈ (resolveOnce resolve text).trace) :
    ∃ content, openers content < openers text ∧ event ∈ (resolve content).trace := by
  obtain ⟨outline, rfl, hresolve⟩ := exists_resolveOnce_eq resolve text
  rw [hresolve] at hmem
  exact Outline.exists_of_mem_trace h hmem

variable (changed : ℕ → ε) (pass left : ℕ)

/-- The passes over links add no openers. -/
theorem openers_resolvePasses_le (text : Text) :
    openers (resolvePasses resolve changed pass left text).value ≤ openers text := by
  induction left generalizing pass text with
  | zero => exact Nat.le_refl _
  | succ left ih =>
    rw [resolvePasses, Traced.value_bind]
    split
    · exact Nat.le_refl _
    · split
      · exact (ih (pass + 1) _).trans (openers_resolveOnce_le h text)
      · exact (ih (pass + 1) _).trans (openers_resolveOnce_le h text)

/-- What is noted in passes over links are the passes themselves, and what is noted about links. -/
theorem exists_of_mem_trace_resolvePasses {changed pass left} {text : Text} {event : ε}
    (hmem : event ∈ (resolvePasses resolve changed pass left text).trace) :
    (∃ number, event = changed number) ∨
      ∃ content, openers content < openers text ∧ event ∈ (resolve content).trace := by
  induction left generalizing pass text with
  | zero => cases hmem
  | succ left ih =>
    rw [resolvePasses, Traced.trace_bind, List.mem_append] at hmem
    rcases hmem with hfirst | hlater
    · exact .inr (exists_of_mem_trace_resolveOnce h hfirst)
    -- a later pass starts from a text with no more openers
    · have hle := openers_resolveOnce_le h text
      have hnext {number : ℕ}
          (hmem : event ∈ (resolvePasses resolve changed number left
            (resolveOnce resolve text).value).trace) :
          (∃ number, event = changed number) ∨
            ∃ content, openers content < openers text ∧ event ∈ (resolve content).trace := by
        rcases ih hmem with hpass | ⟨content, hlt, hevent⟩
        · exact .inl hpass
        · exact .inr ⟨content, hlt.trans_le hle, hevent⟩
      split at hlater
      · cases hlater
      · split at hlater
        · rcases List.mem_cons.mp hlater with rfl | hlater
          · exact .inl ⟨pass + 1, rfl⟩
          · exact hnext hlater
        · exact hnext hlater

end

end WikiText.Link
