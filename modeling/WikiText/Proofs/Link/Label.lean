import WikiText.Link.Reading
import WikiText.Proofs.Link.Bars
import WikiText.Proofs.Link.Kept
import WikiText.Proofs.Link.Outline
import WikiText.Proofs.Scanner
import WikiText.Proofs.Text.Trim

/-!
# Links with a label

A link whose target is made of letters shows its label, trimmed (`read_labelled`): no other form is
read, for each of them ends or is refused at the bar. One pass over the link alone therefore leaves
what the label is cleaned to (`afterPass_labelled`).
-/

namespace WikiText

open Unicode (isWhiteSpace isWordChar sameLetter)

/-- A link to a target with a label. -/
def labelled (target label : Text) : Text :=
  '[' :: '[' :: (target ++ '|' :: label ++ [']', ']'])

namespace Link

/-! ## Letters -/

/-- What is markup in a link or next to one. -/
def marks : Text :=
  "[]|<>\x7b\x7d#:&^./\x27".toList

/-- A property that is checked for the code points of the letters holds for all letters. -/
theorem forall_letter {p : Char → Prop}
    (h : ∀ n < 123, (Char.ofNat n).isAlpha = true → p (Char.ofNat n)) {c : Char}
    (hc : c.isAlpha = true) : p c := by
  have hlt : c.toNat < 123 := by
    have hcase : c.isUpper = true ∨ c.isLower = true := Bool.or_eq_true_iff.mp hc
    rcases hcase with hcapital | hsmall
    · have hle : c.val ≤ 'Z'.val := (of_decide_eq_true hcapital).2
      exact Nat.lt_of_le_of_lt (UInt32.le_iff_toNat_le.mp hle) (by decide)
    · have hbounds : (decide ('a'.val ≤ c.val) && decide (c.val ≤ 'z'.val)) = true := hsmall
      have hle : c.val ≤ 'z'.val := of_decide_eq_true (Bool.and_eq_true_iff.mp hbounds).2
      exact Nat.lt_of_le_of_lt (UInt32.le_iff_toNat_le.mp hle) (by decide)
  rw [← Char.ofNat_toNat c] at hc ⊢
  exact h _ hlt hc

/-- A letter is no white space. -/
theorem isWhiteSpace_letter {c : Char} (h : c.isAlpha = true) : isWhiteSpace c = false :=
  forall_letter (p := fun c => isWhiteSpace c = false) (by decide) h

/-- A letter is a character of words. -/
theorem isWordChar_letter {c : Char} (h : c.isAlpha = true) : isWordChar c = true :=
  forall_letter (p := fun c => isWordChar c = true) (by decide) h

/-- A letter is no mark. -/
theorem notMem_marks_letter {c : Char} (h : c.isAlpha = true) : c ∉ marks :=
  forall_letter (p := (· ∉ marks)) (by decide) h

/-! ## What the link says -/

variable {target label : Text}

/-- A character that is no mark is none of these marks. -/
theorem isOneOf_of_notMem {characters : String} (hmarks : characters.toList ⊆ marks) {c : Char}
    (hc : c ∉ marks) : isOneOf characters c = false := by
  by_contra hone
  rw [Bool.not_eq_false, isOneOf, List.contains_iff_mem] at hone
  exact hc (hmarks hone)

/-- A letter is none of these marks. -/
theorem isOneOf_letter {characters : String} (hmarks : characters.toList ⊆ marks) {c : Char}
    (hc : c.isAlpha = true) : isOneOf characters c = false :=
  isOneOf_of_notMem hmarks (notMem_marks_letter hc)

/-- A target is passed over by whatever passes over its characters and stops behind them. -/
theorem dropWhile_target {p : Char → Bool} (hpass : ∀ c ∈ target, p c = true) {stop : Char}
    (hstop : p stop = false) (label : Text) :
    (target ++ stop :: label).dropWhile p = stop :: label := by
  rw [List.dropWhile_append_of_pos hpass, List.dropWhile_cons_of_neg (by simp [hstop])]

/-- A target of letters has no white space in front. -/
theorem trimStart_target (hletters : ∀ c ∈ target, c.isAlpha = true) (label : Text) :
    Text.trimStart (target ++ '|' :: label) = target ++ '|' :: label := by
  cases target with
  | nil => rfl
  | cons c target =>
    have hc := isWhiteSpace_letter (hletters c List.mem_cons_self)
    exact List.dropWhile_cons_of_neg (by simp [hc])

/-- The name of a namespace stands between white space, and a colon follows. -/
theorem exists_of_qualifier {name input rest : Text} {u : Unit}
    (h : (Namespaces.qualifier name).run input = some (u, rest)) :
    ∃ middle, (Scanner.matching sameLetter name).run input.trimStart = some ((), middle) ∧
      Text.trimStart middle = ':' :: rest := by
  obtain ⟨_, start, hblank, h⟩ := Scanner.exists_of_bind h
  obtain ⟨_, middle, hmatch, h⟩ := Scanner.exists_of_bind h
  obtain ⟨_, final, hblank', hcolon⟩ := Scanner.exists_of_bind h
  cases hblank
  cases hblank'
  obtain ⟨c, left, hfirst, hpure⟩ := Scanner.exists_of_bind hcolon
  obtain ⟨hc, htext⟩ := Scanner.run_satisfy_eq_some.mp hfirst
  cases hpure
  rw [eq_of_beq hc] at htext
  exact ⟨middle, hmatch, htext⟩

/-- What is left behind a qualifier begins with a colon, and is a tail. -/
theorem suffix_of_qualifier {name input rest : Text} {u : Unit}
    (h : (Namespaces.qualifier name).run input = some (u, rest)) : ':' :: rest <:+ input := by
  obtain ⟨middle, hmatch, hcolon⟩ := exists_of_qualifier h
  rw [← hcolon]
  exact (List.dropWhile_suffix _).trans
    ((Scanner.suffix _ hmatch).trans (List.dropWhile_suffix _))

/-- A target of letters has no namespace: the bar comes before any colon. -/
theorem qualifier_target {name : Text} (hname : ∀ d ∈ name, sameLetter d '|' = false)
    (hletters : ∀ c ∈ target, c.isAlpha = true) (label : Text) :
    (Namespaces.qualifier name).run (target ++ '|' :: label) = none := by
  by_contra hsome
  obtain ⟨⟨u, rest⟩, hrun⟩ := Option.ne_none_iff_exists'.mp hsome
  obtain ⟨middle, hmatch, hcolon⟩ := exists_of_qualifier hrun
  rw [trimStart_target hletters] at hmatch
  obtain ⟨front, left, -, rfl, rfl⟩ := Scanner.exists_of_matching hname hmatch
  have hleft : ∀ c ∈ left, c.isAlpha = true :=
    fun c hc => hletters c (List.mem_append_right front hc)
  rw [trimStart_target hleft] at hcolon
  -- the colon would be a letter of the target, or the bar
  cases left with
  | nil => exact absurd (List.cons.inj hcolon).1 (by decide)
  | cons d left =>
    have hd := hleft d List.mem_cons_self
    rw [(List.cons.inj hcolon).1] at hd
    exact absurd hd (by decide)

/-- A target of letters is not in the namespace of categories. -/
theorem isCategory_labelled (hletters : ∀ c ∈ target, c.isAlpha = true) (label : Text) :
    Namespaces.canonical.isCategory (target ++ '|' :: label) = false := by
  rw [Namespaces.isCategory, List.any_eq_false]
  intro name hname
  have hnames : ∀ name ∈ Namespaces.canonical.categories, name.all (!sameLetter · '|') = true := by
    decide +kernel
  have hbar : ∀ d ∈ name, sameLetter d '|' = false := by
    intro d hd
    have hd := List.all_eq_true.mp (hnames name hname) d hd
    rwa [Bool.not_eq_true'] at hd
  rw [qualifier_target hbar hletters]
  simp

/-- A target of letters is not in a namespace of files. -/
theorem isFile_target (hletters : ∀ c ∈ target, c.isAlpha = true) (namespaces : Namespaces) :
    namespaces.isFile target = false := by
  rw [Namespaces.isFile, List.any_eq_false]
  intro name hname hsome
  obtain ⟨⟨u, rest⟩, hrun⟩ := Option.isSome_iff_exists.mp hsome
  have hcolon := (suffix_of_qualifier hrun).subset List.mem_cons_self
  exact absurd (hletters ':' hcolon) (by decide)

/-- A link with a label is not plain. -/
theorem plainTarget?_labelled (hletters : ∀ c ∈ target, c.isAlpha = true) (htarget : target ≠ [])
    (label : Text) : plainTarget? (target ++ '|' :: label) = none := by
  have hcolon : (target ++ '|' :: label).head? ≠ some ':' := by
    cases target with
    | nil => exact absurd rfl htarget
    | cons c target =>
      intro hhead
      have hc := hletters c List.mem_cons_self
      rw [Option.some.inj hhead] at hc
      exact absurd hc (by decide)
  have hpass : ∀ c ∈ target, (!isOneOf "]|#<>:&" c) = true := by
    intro c hc
    rw [isOneOf_letter (by decide) (hletters c hc)]
    rfl
  rw [plainTarget?, trimStart_target hletters]
  simp only [if_neg hcolon]
  rw [dropWhile_target hpass (by decide)]
  rfl

/-- A target of letters is not qualified. -/
theorem qualified?_labelled (hletters : ∀ c ∈ target, c.isAlpha = true) (label : Text) :
    qualified? (target ++ '|' :: label) = none := by
  have hpass : ∀ c ∈ target, isWordChar c = true := fun c hc => isWordChar_letter (hletters c hc)
  rw [qualified?, trimStart_target hletters]
  dsimp only
  rw [dropWhile_target hpass (by decide)]
  rfl

/-- A label is no end of a qualified target. -/
theorem endsQualified_bar (hlabel : label ≠ []) : endsQualified ('|' :: label) = false := by
  have hhead : ('|' :: label).head? ≠ some '#' := fun h => absurd (Option.some.inj h) (by decide)
  rw [endsQualified, if_neg hhead]
  simp [hlabel]

/-- A link with a label is not without one. -/
theorem isUnlabelled_labelled (hletters : ∀ c ∈ target, c.isAlpha = true) (hlabel : label ≠ []) :
    isUnlabelled (target ++ '|' :: label) = false := by
  have hpass : ∀ c ∈ target, (!isOneOf "[]#|<>" c) = true := by
    intro c hc
    rw [isOneOf_letter (by decide) (hletters c hc)]
    rfl
  rw [isUnlabelled, trimStart_target hletters, dropWhile_target hpass (by decide),
    endsQualified_bar hlabel, Bool.false_and]

/-- A label without bars is one piece behind the target. -/
theorem splitBars_labelled (hletters : ∀ c ∈ target, c.isAlpha = true) (hbar : '|' ∉ label) :
    splitBars 0 (target ++ '|' :: label) = [target, label] := by
  have hmarks : ∀ mark ∈ marks, mark ∉ target :=
    fun mark hmark hmem => notMem_marks_letter (hletters mark hmem) hmark
  rw [splitBars_append_bar (hmarks '[' (by decide)) (hmarks ']' (by decide))
    (hmarks '|' (by decide)), splitBars_of_notMem hbar]

/-- A link with a label is shown as the label. -/
theorem readPiped_labelled (hletters : ∀ c ∈ target, c.isAlpha = true) (htarget : target ≠ [])
    (hopen : '[' ∉ label) (hclose : ']' ∉ label) (hshown : label.trim ≠ [])
    (namespaces : Namespaces) :
    readPiped namespaces target [label] = .shown label.trim := by
  have hmarks : target.any (isOneOf "[]|<>") = false := by
    rw [List.any_eq_false]
    intro c hc
    rw [isOneOf_letter (by decide) (hletters c hc)]
    exact Bool.false_ne_true
  have hpairs : ∀ c : Char, c ∉ label → Text.occursIn [c, c] label = false := by
    intro c hc
    exact Text.occursIn_eq_false_iff.mpr (Text.not_pair_infix_of_notMem hc c)
  rw [readPiped, hmarks, isFile_target hletters]
  simp [htarget, hpairs '[' hopen, hpairs ']' hclose, hshown]

/-- **A link to letters shows its label.** Only the white space around the label is left out. -/
theorem read_labelled (hletters : ∀ c ∈ target, c.isAlpha = true) (htarget : target ≠ [])
    (hopen : '[' ∉ label) (hclose : ']' ∉ label) (hbar : '|' ∉ label) (hshown : label.trim ≠ []) :
    read .canonical (target ++ '|' :: label) = .shown label.trim := by
  have hlabel : label ≠ [] := by
    rintro rfl
    exact hshown rfl
  -- the forms in the order in which they are tried
  rw [read, isCategory_labelled hletters, plainTarget?_labelled hletters htarget,
    qualified?_labelled hletters, isUnlabelled_labelled hletters hlabel,
    splitBars_labelled hletters hbar]
  exact readPiped_labelled hletters htarget hopen hclose hshown _

/-! ## The pass over the link -/

variable {ε : Type}

/-- What is read inside of a link, without brackets, changes no more of the link than whether its
label has begun. -/
theorem resolveFrom_content (resolve : Text → Traced ε Action) {content : Text}
    (hopen : '[' ∉ content) (hclose : ']' ∉ content) (inside : Text) (link : OpenLink)
    (outer : List OpenLink) :
    ∃ piped, ∀ rest, resolveFrom resolve inside (link :: outer) (content ++ rest)
      = resolveFrom resolve (content.reverse ++ inside) ({ link with piped := piped } :: outer)
        rest := by
  induction content generalizing inside link with
  | nil => exact ⟨link.piped, fun _ => rfl⟩
  | cons c content ih =>
    -- without brackets only the mark of a bar seen can change in the open link
    obtain ⟨hopen, hrest⟩ := List.ne_and_not_mem_of_not_mem_cons hopen
    obtain ⟨hclose, hrest'⟩ := List.ne_and_not_mem_of_not_mem_cons hclose
    have hsee : ∃ piped, link.see c = { link with piped := piped } := by
      unfold OpenLink.see
      split
      · exact ⟨true, rfl⟩
      · simp only [hopen.symm, hclose.symm, decide_false, Bool.false_and, Bool.false_eq_true,
          if_false]
        exact ⟨link.piped, rfl⟩
    obtain ⟨begun, hbegun⟩ := hsee
    obtain ⟨piped, hpiped⟩ := ih hrest hrest' (c :: inside) { link with piped := begun }
    refine ⟨piped, fun rest => ?_⟩
    rw [List.cons_append, resolveFrom_cons _ hopen.symm hclose.symm, seeInside, hbegun, hpiped,
      List.reverse_cons, List.append_assoc]
    rfl

/-- A pass over a text with one link. -/
theorem resolveOnce_between (resolve : Text → Traced ε Action) {before content after : Text}
    (hbefore : '[' ∉ before ∧ ']' ∉ before) (hcontent : '[' ∉ content ∧ ']' ∉ content)
    (hafter : '[' ∉ after ∧ ']' ∉ after) :
    resolveOnce resolve (before ++ '[' :: '[' :: (content ++ ']' :: ']' :: after))
      = resolve content >>= fun action => pure (action.edit before content ++ after) := by
  obtain ⟨piped, hpiped⟩ :=
    resolveFrom_content resolve hcontent.1 hcontent.2 [] ⟨before.reverse, 0, false⟩ []
  have hrest : ∀ action, resolveFrom resolve
      (OpenLink.close ⟨before.reverse, 0, piped⟩ content.reverse action) [] after
        = pure (action.edit before content ++ after) := by
    intro action
    have hread := resolveFrom_append_of_notMem resolve hafter.1 hafter.2
      (OpenLink.close ⟨before.reverse, 0, piped⟩ content.reverse action) []
    have hclose := reverse_close ⟨before.reverse, 0, piped⟩ content action
    rw [List.append_nil] at hread
    rw [hread, resolveFrom, List.reverse_append, hclose]
    simp [restoreOpen]
  rw [resolveOnce, resolveFrom_append_of_notMem resolve hbefore.1 hbefore.2, List.append_nil,
    resolveFrom, hpiped, List.append_nil, resolveFrom, if_pos rfl, List.reverse_reverse]
  simp only [hrest]

/-- A pass over one link, if a text is shown for it. -/
theorem resolveOnce_link {resolve : Text → Traced ε Action} {content text : Text}
    (hopen : '[' ∉ content) (hclose : ']' ∉ content)
    (hshown : (resolve content).value = .replace text) :
    (resolveOnce resolve ('[' :: '[' :: (content ++ [']', ']']))).value = text := by
  have hnothing : '[' ∉ ([] : Text) ∧ ']' ∉ ([] : Text) := ⟨List.not_mem_nil, List.not_mem_nil⟩
  have hpass := resolveOnce_between resolve hnothing ⟨hopen, hclose⟩ hnothing
  rw [List.nil_append] at hpass
  rw [hpass, Traced.value_bind, hshown, Traced.value_pure, Action.edit, List.append_nil,
    List.nil_append]

/-- A mark in the content of the link is the bar, or in the label. -/
theorem notMem_content (hletters : ∀ c ∈ target, c.isAlpha = true) {c : Char} (hc : c ∈ marks)
    (hbar : c ≠ '|') (hlabel : c ∉ label) : c ∉ target ++ '|' :: label := by
  intro hmem
  rcases List.mem_append.mp hmem with hmem | hmem
  · exact notMem_marks_letter (hletters c hmem) hc
  · rcases List.mem_cons.mp hmem with rfl | hmem
    · exact hbar rfl
    · exact hlabel hmem

/-- One pass over a link to letters leaves what its label is cleaned to. -/
theorem afterPass_labelled (clean : Text → Traced ε Text)
    (hletters : ∀ c ∈ target, c.isAlpha = true) (htarget : target ≠ [])
    (hopen : '[' ∉ label) (hclose : ']' ∉ label) (hbar : '|' ∉ label) (hshown : label.trim ≠ []) :
    afterPass (classify .canonical clean) (labelled target label) = (clean label.trim).value := by
  refine resolveOnce_link (notMem_content hletters (by decide) (by decide) hopen)
    (notMem_content hletters (by decide) (by decide) hclose) ?_
  rw [classify, read_labelled hletters htarget hopen hclose hbar hshown]
  rfl

/-- A link with a label has one pair of opening brackets. -/
theorem pairs_labelled (hletters : ∀ c ∈ target, c.isAlpha = true) (hopen : '[' ∉ label) :
    pairs (labelled target label) = 1 := by
  have hinside : '[' ∉ target ++ '|' :: label ++ [']', ']'] := by
    intro hmem
    rcases List.mem_append.mp hmem with hmem | hmem
    · exact notMem_content hletters (by decide) (by decide) hopen hmem
    · exact absurd hmem (by decide)
  exact congrArg (· + 1) (plain_of_notMem hinside).1

/-- The links of a text that is one link to letters are resolved in two passes, of which the second
is over what the label is cleaned to. -/
theorem value_resolveAll_labelled (clean : Text → Traced ε Text) (changed : ℕ → ε)
    (hletters : ∀ c ∈ target, c.isAlpha = true) (htarget : target ≠ [])
    (hopen : '[' ∉ label) (hclose : ']' ∉ label) (hbar : '|' ∉ label) (hshown : label.trim ≠ []) :
    (resolveAll (classify .canonical clean) changed (labelled target label)).value
      = afterPass (classify .canonical clean) (clean label.trim).value := by
  rw [value_resolveAll, pairs_labelled hletters hopen, Function.iterate_succ_apply,
    Function.iterate_one, afterPass_labelled clean hletters htarget hopen hclose hbar hshown]

end Link

end WikiText
