import Mathlib.Data.Bool.AllAny
import WikiText.Proofs.Link.Names

/-!
# Links that show their target

A link without a label shows its target. Three readers may find it: that of a plain target, that of a
namespace with a page, and `writtenTarget`, which takes the whole content up to a bar. Behind a colon
all of them show what is written (`read_colon`). A section behind the target is left out by the first
one only, and an ampersand keeps a target from being plain, so that the section is shown with it
(`classify_anchor`).
-/

namespace WikiText.Link

open Unicode (isWhiteSpace isWordChar)

/-- A text that is not empty, has no white space around it, and no mark that ends a target. -/
structure Unmarked (text : Text) : Prop where
  trimmed : Text.Trimmed text
  nonempty : text ≠ []
  plain : ∀ c ∈ text, c ∉ "[]#|<>".toList

variable {text target anchor ending : Text}

/-- The texts without marks, by a condition that can be computed. -/
theorem unmarked_iff :
    Unmarked text ↔ text.trim = text ∧ text ≠ [] ∧ ∀ c ∈ text, c ∉ "[]#|<>".toList :=
  ⟨fun h => ⟨Text.trim_of_trimmed h.trimmed, h.nonempty, h.plain⟩,
    fun ⟨htrim, hne, hplain⟩ => ⟨htrim ▸ Text.trimmed_trim text, hne, hplain⟩⟩

instance (text : Text) : Decidable (Unmarked text) :=
  have : Decidable (∀ c ∈ text, c ∉ "[]#|<>".toList) := List.decidableBAll _ text
  decidable_of_iff _ unmarked_iff.symm

/-! ## What ends a target -/

/-- What ends a plain target is nothing, or a section. -/
theorem endsPlain_iff :
    endsPlain ending = true ↔
      ending = [] ∨ ∃ anchor, ending = '#' :: anchor ∧ ∀ c ∈ anchor, c ∉ "[]|<>".toList := by
  cases ending with
  | nil => simp [endsPlain]
  | cons c anchor => simp [endsPlain, isOneOf]

/-- What passes over a text and stops at a number sign comes to the end of a target. -/
theorem dropWhile_append_ending {p : Char → Bool} (hsign : p '#' = false)
    (hending : endsPlain ending = true) (text : Text) :
    (text ++ ending).dropWhile p = text.dropWhile p ++ ending ∧
      (text ++ ending).takeWhile p = text.takeWhile p := by
  have hstop : ending.dropWhile p = ending ∧ ending.takeWhile p = [] := by
    rcases endsPlain_iff.mp hending with rfl | ⟨anchor, rfl, -⟩
    · exact ⟨rfl, rfl⟩
    · exact ⟨List.dropWhile_cons_of_neg (by simp [hsign]), List.takeWhile_cons_of_neg (by simp [hsign])⟩
  induction text with
  | nil => exact hstop
  | cons c text ih =>
    by_cases hc : p c = true
    · rw [List.cons_append, List.dropWhile_cons_of_pos hc, List.dropWhile_cons_of_pos hc,
        List.takeWhile_cons_of_pos hc, List.takeWhile_cons_of_pos hc, ih.1, ih.2]
      exact ⟨rfl, rfl⟩
    · rw [List.cons_append, List.dropWhile_cons_of_neg hc, List.dropWhile_cons_of_neg hc,
        List.takeWhile_cons_of_neg hc, List.takeWhile_cons_of_neg hc]
      exact ⟨rfl, rfl⟩

/-- What may come behind a plain target may come behind a qualified one. -/
theorem endsQualified_of_endsPlain (h : endsPlain ending = true) : endsQualified ending = true := by
  rcases endsPlain_iff.mp h with rfl | ⟨anchor, rfl, hanchor⟩
  · rfl
  · have hpass : ('#' :: anchor).dropWhile (!isOneOf "[]|" ·) = [] := by
      rw [List.dropWhile_eq_nil_iff]
      intro c hc
      rcases List.mem_cons.mp hc with rfl | hc
      · decide
      · have hnot := hanchor c hc
        simp_all [isOneOf]
    rw [endsQualified, List.head?_cons, if_pos rfl, hpass]
    rfl

/-! ## Texts without marks -/

namespace Unmarked

/-- A colon in front is no mark. -/
theorem colon (h : Unmarked text) : Unmarked (':' :: text) where
  trimmed :=
    { head := by
        rintro c hc
        obtain rfl := Option.some.inj hc
        decide
      last := by
        intro c hc
        rw [List.getLast?_cons_of_ne_nil h.nonempty] at hc
        exact h.trimmed.last c hc }
  nonempty := List.cons_ne_nil _ _
  plain := by
    intro c hc
    rcases List.mem_cons.mp hc with rfl | hc
    · decide
    · exact h.plain c hc

/-- None of the marks is in the text. -/
theorem notMem (h : Unmarked text) {c : Char} (hc : c ∈ "[]#|<>".toList) : c ∉ text :=
  fun hmem => h.plain c hmem hc

/-- Every character passes the test for marks. -/
theorem pass (h : Unmarked text) : ∀ c ∈ text, (!isOneOf "[]#|<>" c) = true := by
  intro c hc
  rw [isOneOf, List.contains_eq_mem, decide_eq_false (h.plain c hc)]
  rfl

/-- Without colons and ampersands every character is one of a plain target. -/
theorem pass_plain (h : Unmarked text) (hcolon : ':' ∉ text) (hampersand : '&' ∉ text) :
    ∀ c ∈ text, (!isOneOf "]|#<>:&" c) = true := by
  intro c hc
  rw [Bool.not_eq_true', ← Bool.not_eq_true, isOneOf, List.contains_iff_mem]
  intro hmem
  rcases (by simpa using hmem) with rfl | rfl | rfl | rfl | rfl | rfl | rfl
  case inr.inr.inr.inr.inr.inl => exact hcolon hc
  case inr.inr.inr.inr.inr.inr => exact hampersand hc
  all_goals exact h.notMem (by decide) hc

/-- The text does not begin with a character that is not in it. -/
theorem head?_append_ne (h : Unmarked text) {c : Char} (hc : c ∉ text) (rest : Text) :
    (text ++ rest).head? ≠ some c := by
  obtain ⟨d, tail, rfl⟩ := List.exists_cons_of_ne_nil h.nonempty
  intro hhead
  rw [Option.some.inj hhead] at hc
  exact hc List.mem_cons_self

/-- What is at the margin of a link is not at that of the text. -/
theorem isOneOf_margin (h : Unmarked text) {c : Char} (hc : c ∈ text) (hink : isWhiteSpace c = false) :
    isOneOf " []" c = false := by
  rw [← Bool.not_eq_true, isOneOf, List.contains_iff_mem]
  intro hmem
  rcases (by simpa using hmem) with rfl | rfl | rfl
  · cases hink
  · exact h.notMem (by decide) hc
  · exact h.notMem (by decide) hc

/-- Nothing is dropped in front of the text. -/
theorem dropWhile_margin (h : Unmarked text) (rest : Text) :
    (text ++ rest).dropWhile (isOneOf " []") = text ++ rest := by
  obtain ⟨c, tail, rfl⟩ := List.exists_cons_of_ne_nil h.nonempty
  have hc := h.isOneOf_margin List.mem_cons_self (h.trimmed.head c rfl)
  exact List.dropWhile_cons_of_neg (by simp [hc])

/-- Nothing is dropped at the end of the text. -/
theorem dropWhileEnd_margin (h : Unmarked text) : Text.dropWhileEnd (isOneOf " []") text = text := by
  rw [Text.dropWhileEnd_eq_rdropWhile, List.rdropWhile_eq_self_iff]
  intro hne
  have hlast := h.trimmed.last _ (List.getLast?_eq_some_getLast hne)
  simp [h.isOneOf_margin (List.getLast_mem hne) hlast]

end Unmarked

/-! ## The three readers

A plain target is read behind a colon if there is one. In the first two lemmas `page` is what is left
of the content then. -/

section

variable {content page : Text} (hstart : Text.trimStart content = content)
  (hpage : (if content.head? = some ':' then content.drop 1 else content) = page)

include hstart hpage

/-- The page up to the first mark is a plain target, if what follows may come behind one. -/
theorem plainTarget?_eq_some (h : Unmarked target)
    (htake : page.takeWhile (!isOneOf "]|#<>:&" ·) = target)
    (hends : endsPlain (page.dropWhile (!isOneOf "]|#<>:&" ·)) = true) :
    plainTarget? content = some target := by
  have htrim : Text.trimEnd target = target := by
    have htrim := Text.trim_of_trimmed h.trimmed
    have hstart := h.trimmed.trimStart_append h.nonempty []
    rw [List.append_nil] at hstart
    rwa [Text.trim, hstart] at htrim
  have hempty : target.isEmpty = false := List.isEmpty_eq_false_iff.mpr h.nonempty
  rw [plainTarget?, hstart]
  simp only [hpage, htake, hends, htrim, hempty, Bool.not_true, Bool.false_eq_true, if_false]

/-- There is no plain target, if something else follows. -/
theorem plainTarget?_eq_none (hends : endsPlain (page.dropWhile (!isOneOf "]|#<>:&" ·)) = false) :
    plainTarget? content = none := by
  rw [plainTarget?, hstart]
  simp only [hpage, hends, Bool.not_false, if_true]

end

/-- A colon or an ampersand ends the reading of a plain target, and no section begins with either. -/
theorem endsPlain_dropWhile (h : Unmarked text) (hstop : ':' ∈ text ∨ '&' ∈ text) :
    endsPlain ((text ++ ending).dropWhile (!isOneOf "]|#<>:&" ·)) = false := by
  have hne : text.dropWhile (!isOneOf "]|#<>:&" ·) ≠ [] := by
    intro hnil
    have hpass := List.dropWhile_eq_nil_iff.mp hnil
    rcases hstop with hmem | hmem <;> exact absurd (hpass _ hmem) (by decide)
  obtain ⟨c, tail, hcons⟩ := List.exists_cons_of_ne_nil hne
  have hc : c ≠ '#' := by
    rintro rfl
    exact h.notMem (by decide) ((List.dropWhile_suffix _).subset (hcons ▸ List.mem_cons_self))
  rw [List.dropWhile_append, hcons]
  simp [endsPlain, hc]

/-- Behind a colon no namespace is read. -/
theorem qualified?_colon (text : Text) : qualified? (':' :: text) = none := by
  have hstart : Text.trimStart (':' :: text) = ':' :: text := List.dropWhile_cons_of_neg (by decide)
  have htake : (':' :: text).takeWhile isWordChar = [] := List.takeWhile_cons_of_neg (by decide)
  have hdrop : (':' :: text).dropWhile isWordChar = ':' :: text :=
    List.dropWhile_cons_of_neg (by decide)
  rw [qualified?, hstart, htake, hdrop]
  simp only [hstart, List.isEmpty_nil, Bool.true_or, if_true]

/-- A target without a colon has no namespace. -/
theorem qualified?_of_notMem (h : Unmarked target) (hcolon : ':' ∉ target)
    (hending : endsPlain ending = true) : qualified? (target ++ ending) = none := by
  have hstart := h.trimmed.trimStart_append h.nonempty ending
  have hhead : (Text.trimStart ((target ++ ending).dropWhile isWordChar)).head? ≠ some ':' := by
    intro hhead
    obtain ⟨more, hmore⟩ := List.head?_eq_some_iff.mp hhead
    rw [(dropWhile_append_ending (by decide) hending target).1] at hmore
    have hleft : ':' ∉ target.dropWhile isWordChar :=
      fun hmem => hcolon ((List.dropWhile_suffix _).subset hmem)
    rcases endsPlain_iff.mp hending with rfl | ⟨anchor, rfl, -⟩
    · rw [List.append_nil] at hmore
      exact hleft ((List.dropWhile_suffix _).subset (hmore ▸ List.mem_cons_self))
    · rcases Text.mem_or_eq_of_trimStart (by decide) hmore with hmem | hsign
      · exact hleft hmem
      · exact absurd hsign (by decide)
  rw [qualified?, hstart]
  dsimp only
  split
  · next hmatch => rw [hmatch] at hhead; exact absurd rfl hhead
  · rfl

/-- Such a text with a section or without is a link without label. -/
theorem isUnlabelled_eq_true (h : Unmarked text) (hending : endsPlain ending = true) :
    isUnlabelled (text ++ ending) = true := by
  obtain ⟨hdrop, htake⟩ :=
    dropWhile_append_ending (p := (!isOneOf "[]#|<>" ·)) (by decide) hending text
  rw [List.dropWhile_eq_nil_iff.mpr h.pass, List.nil_append] at hdrop
  rw [List.takeWhile_eq_self_iff.mpr h.pass] at htake
  rw [isUnlabelled, h.trimmed.trimStart_append h.nonempty, hdrop, htake,
    endsQualified_of_endsPlain hending]
  simp [h.nonempty]

/-- A colon in front of a target is not shown. -/
theorem writtenTarget_colon (h : Unmarked text) : writtenTarget (':' :: text) = text := by
  have hfront := h.colon.dropWhile_margin []
  rw [List.append_nil] at hfront
  have hbar : (':' :: text).takeWhile (· ≠ '|') = ':' :: text := by
    apply List.takeWhile_eq_self_iff.mpr
    intro c hc
    rw [decide_eq_true_eq]
    rintro rfl
    exact h.colon.notMem (by decide) hc
  rw [writtenTarget, hfront, h.colon.dropWhileEnd_margin, hbar]
  rfl

/-- The target is written with its section, but for spaces and brackets at the end. -/
theorem writtenTarget_append (h : Unmarked target) (hcolon : ':' ∉ target)
    (hending : endsPlain ending = true) :
    writtenTarget (target ++ ending) = Text.dropWhileEnd (isOneOf " []") (target ++ ending) := by
  apply writtenTarget_of_head? (h.dropWhile_margin ending) _ (h.head?_append_ne hcolon ending)
  intro hbar
  rcases List.mem_append.mp hbar with hbar | hbar
  · exact h.notMem (by decide) hbar
  · rcases endsPlain_iff.mp hending with rfl | ⟨anchor, rfl, hanchor⟩
    · cases hbar
    · rcases List.mem_cons.mp hbar with hsign | hbar
      · exact absurd hsign (by decide)
      · exact hanchor '|' hbar (by decide)

/-! ## What the link says -/

variable (namespaces : Namespaces)

/-- Behind a colon the target is shown as it is written, whatever its namespace is, unless the content
is a category all the same. -/
theorem read_colon (h : Unmarked text) :
    read namespaces (':' :: text)
      = if namespaces.isCategory (':' :: text) then .category else .shown text := by
  have hstart : Text.trimStart (':' :: text) = ':' :: text := List.dropWhile_cons_of_neg (by decide)
  by_cases hstop : ':' ∈ text ∨ '&' ∈ text
  · have hends : endsPlain (text.dropWhile (!isOneOf "]|#<>:&" ·)) = false := by
      rw [← List.append_nil text]
      exact endsPlain_dropWhile h hstop
    have hunlabelled : isUnlabelled (':' :: text) = true := by
      rw [← List.append_nil (':' :: text)]
      exact isUnlabelled_eq_true h.colon rfl
    rw [read, plainTarget?_eq_none hstart (if_pos rfl) hends, qualified?_colon, hunlabelled,
      writtenTarget_colon h]
    rfl
  · obtain ⟨hcolon, hampersand⟩ := not_or.mp hstop
    have hpass := h.pass_plain hcolon hampersand
    have hends : endsPlain (text.dropWhile (!isOneOf "]|#<>:&" ·)) = true := by
      rw [List.dropWhile_eq_nil_iff.mpr hpass]
      rfl
    rw [read, plainTarget?_eq_some hstart (if_pos rfl) h (List.takeWhile_eq_self_iff.mpr hpass) hends]

/-- A target behind a colon is shown as its cleaned text, whatever its namespace. -/
theorem classify_colon {namespaces : Namespaces}
    (hcategory : namespaces.isCategory (':' :: text) = false) (h : Unmarked text) {ε : Type}
    (clean : Text → Traced ε Text) :
    classify namespaces clean (':' :: text) = do
      let shown ← clean text
      return .replace shown := by
  rw [classify, read_colon _ h, hcategory]
  rfl

/-- A target without a colon is shown. What ends it is shown with it if there is an ampersand in the
target, and is left out if there is none. -/
theorem read_target (h : Unmarked target) (hcolon : ':' ∉ target) (hending : endsPlain ending = true) :
    read namespaces (target ++ ending)
      = if namespaces.isCategory (target ++ ending) then .category
        else if '&' ∈ target then .shown (Text.dropWhileEnd (isOneOf " []") (target ++ ending))
        else .shown target := by
  have hstart := h.trimmed.trimStart_append h.nonempty ending
  have hhead := h.head?_append_ne hcolon ending
  by_cases hampersand : '&' ∈ target
  · rw [read, plainTarget?_eq_none hstart (if_neg hhead) (endsPlain_dropWhile h (.inr hampersand)),
      qualified?_of_notMem h hcolon hending, isUnlabelled_eq_true h hending,
      writtenTarget_append h hcolon hending, if_pos hampersand]
    rfl
  -- without the ampersand nothing in the target stops the plain reading
  · have hpass := h.pass_plain hcolon hampersand
    obtain ⟨hdrop, htake⟩ :=
      dropWhile_append_ending (p := (!isOneOf "]|#<>:&" ·)) (by decide) hending target
    rw [List.dropWhile_eq_nil_iff.mpr hpass, List.nil_append] at hdrop
    rw [List.takeWhile_eq_self_iff.mpr hpass] at htake
    have hends : endsPlain ((target ++ ending).dropWhile (!isOneOf "]|#<>:&" ·)) = true := by
      rw [hdrop]
      exact hending
    rw [read, plainTarget?_eq_some hstart (if_neg hhead) h htake hends, if_neg hampersand]

/-- **What becomes of a section.** A target without a colon, and the same target behind a colon, are
replaced by the target, cleaned. If a section follows, so is the link, unless there is an ampersand in
the target: then the section is cleaned and shown with it.

The link with a section may be read as a category, but only if a name of the namespace has a number
sign itself. -/
theorem classify_anchor {files categories : List Text} (htarget : Unmarked target)
    (hcolon : ':' ∉ target) (hanchor : ∀ c ∈ anchor, c ∉ "[]|<>".toList) {ε : Type}
    (clean : Text → Traced ε Text) :
    (classify (.ofNames files categories) clean target = do
      let text ← clean target
      return .replace text) ∧
    (classify (.ofNames files categories) clean (':' :: target) = do
      let text ← clean target
      return .replace text) ∧
    (classify (.ofNames files categories) clean (target ++ '#' :: anchor)
      = if (Namespaces.ofNames files categories).isCategory (target ++ '#' :: anchor) then pure .drop
        else if '&' ∈ target then do
          let text ← clean (Text.dropWhileEnd (isOneOf " []") (target ++ '#' :: anchor))
          return .replace text
        else do
          let text ← clean target
          return .replace text) ∧
    ((∀ name ∈ (Namespaces.ofNames files categories).categories, '#' ∉ name) →
      (Namespaces.ofNames files categories).isCategory (target ++ '#' :: anchor) = false) := by
  have hproper : ∀ name ∈ (Namespaces.ofNames files categories).categories,
      Namespaces.Proper name :=
    fun name hname => Namespaces.proper_of_mem_ofNames (List.mem_append_right _ hname)
  -- a category behind a leading colon has a second colon, and the target has none
  have hbehind : (Namespaces.ofNames files categories).isCategory (':' :: target) = false := by
    by_contra hcategory
    rw [Bool.not_eq_false] at hcategory
    exact hcolon (Namespaces.colon_mem_of_isCategory_colon hproper hcategory).1
  have hending : endsPlain ('#' :: anchor) = true := endsPlain_iff.mpr (.inr ⟨anchor, rfl, hanchor⟩)
  refine ⟨?_, ?_, ?_, Namespaces.isCategory_anchor htarget.trimmed htarget.nonempty hcolon⟩
  · have hread := @read_target target [] (.ofNames files categories) htarget hcolon rfl
    rw [List.append_nil, htarget.dropWhileEnd_margin, ite_self, Namespaces.isCategory_of_notMem hcolon]
      at hread
    rw [classify, hread]
    rfl
  · exact classify_colon hbehind htarget clean
  · rw [classify, read_target _ htarget hcolon hending, apply_ite (Reading.act clean),
      apply_ite (Reading.act clean)]
    rfl

/-- A link to a section of a page with two words. -/
theorem classify_anchor_two_words :
    Unmarked "New York".toList ∧ ':' ∉ "New York".toList ∧
      (∀ c ∈ "History".toList, c ∉ "[]|<>".toList) ∧
      classify (.ofNames [] []) (pure : Text → Traced Empty Text) "New York#History".toList
        = pure (.replace "New York".toList) := by
  have htarget : Unmarked "New York".toList := by decide
  have hanchor : ∀ c ∈ "History".toList, c ∉ "[]|<>".toList :=
    List.all_iff_forall_prop.mp (by decide)
  have hnames : ∀ name ∈ (Namespaces.ofNames [] []).categories, '#' ∉ name := by decide
  obtain ⟨-, -, hclassify, hcategory⟩ :=
    @classify_anchor _ _ [] [] htarget (by decide) hanchor Empty pure
  rw [hcategory hnames] at hclassify
  exact ⟨htarget, by decide, hanchor, hclassify⟩

/-- A section is not always left out: with an ampersand in the target it is shown. -/
theorem classify_anchor_ampersand :
    ¬ ∀ (files categories : List Text) (target anchor : Text) (clean : Text → Traced Empty Text),
      Unmarked target → ':' ∉ target → (∀ c ∈ anchor, c ∉ "[]|<>".toList) →
      classify (.ofNames files categories) clean (target ++ '#' :: anchor) = do
        let text ← clean target
        return .replace text := by
  intro h
  have hanchor : ∀ c ∈ "History".toList, c ∉ "[]|<>".toList :=
    List.all_iff_forall_prop.mp (by decide)
  have hclassify := h [] [] "AT&T".toList "History".toList pure (by decide) (by decide) hanchor
  exact absurd (congrArg Traced.value hclassify) (by decide +kernel)

end WikiText.Link
