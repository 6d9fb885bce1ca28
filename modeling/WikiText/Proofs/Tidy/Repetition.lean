import Mathlib.Logic.Function.Iterate
import WikiText.Proofs.Tidy

/-!
# Tidying again and again

The passes over white space may be taken in another order: what is shown of a text is found first, and
its white space is reduced after that (`tidy_eq`). Two newlines that come together then are two that
had only spaces between them (`infix_reduce_iff`), and an en space that stands in a tidied text was an
en quad, which normalization writes so (`mem_nfc_enSpace_iff`).

Both are gone once a text is tidied again, but an en space may have kept two newlines apart until then.
So the third time a text is settled, and it is settled the first time if and only if it has neither
(`tidy_repeated`).
-/

namespace WikiText.Tidy

open Text (Blank Trimmed trim squeeze squeeze_cons_of_neg squeeze_append_cons mem_squeeze)
open Unicode (isWhiteSpace Apart nfc)

/-! ## Ellipses before or after the reduction -/

/-- A character of ink is left where it stood when white space is reduced. -/
theorem exists_of_reduce_eq {c : Char} (hc : isWhiteSpace c = false) {text front back : Text}
    (h : reduce text = front ++ c :: back) :
    ∃ before after, text = before ++ c :: after ∧ reduce before = front ∧ reduce after = back := by
  refine Text.exists_of_pass_eq (reduce_append_cons hc) (fun text hmem => ?_) h
  rcases mem_squeeze (mem_closeLines hmem) with rfl | ⟨hmem, -⟩
  · cases hc
  · exact hmem

/-- Only white space is reduced to white space. -/
theorem blank_of_blank_reduce {text : Text} (h : Blank (reduce text)) : Blank text := by
  intro c hc
  by_contra hink
  obtain ⟨before, after, rfl⟩ := List.append_of_mem hc
  rw [reduce_append_cons (eq_false_of_ne_true hink)] at h
  exact hink (h c (by simp))

/-- An ellipsis in brackets is read if and only if it is read in the reduced text. -/
theorem run_spaced_reduce (text : Text) :
    Ellipsis.spaced.body.run (reduce text)
      = (Ellipsis.spaced.body.run text).map fun (u, rest) => (u, reduce rest) := by
  have hdots : isWhiteSpace '…' = false := by decide
  have hclose : isWhiteSpace ']' = false := by decide
  cases hrun : Ellipsis.spaced.body.run text with
  | some found =>
    obtain ⟨before, after, hbefore, hafter, rfl⟩ := run_spaced.mp hrun
    rw [reduce_append_cons hdots, reduce_append_cons hclose]
    exact run_spaced.mpr ⟨_, _, blank_reduce hbefore, blank_reduce hafter, rfl⟩
  | none =>
    cases hreduced : Ellipsis.spaced.body.run (reduce text) with
    | none => rfl
    | some found =>
      obtain ⟨before, after, hbefore, hafter, htext⟩ := run_spaced.mp hreduced
      -- the dots and the bracket stand in the text too, since reducing only touches white space
      obtain ⟨before', rest, rfl, rfl, hrest⟩ := exists_of_reduce_eq hdots htext
      obtain ⟨after', rest', rfl, rfl, hfound⟩ := exists_of_reduce_eq hclose hrest
      have hread : Ellipsis.spaced.body.run (before' ++ '…' :: (after' ++ ']' :: rest'))
          = some ((), rest') :=
        run_spaced.mpr ⟨before', after', blank_of_blank_reduce hbefore,
          blank_of_blank_reduce hafter, rfl⟩
      rw [hrun] at hread
      cases hread

/-- A character in front that is no white space is kept. -/
theorem reduce_cons {c : Char} (hc : isWhiteSpace c = false) (rest : Text) :
    reduce (c :: rest) = c :: reduce rest :=
  reduce_append_cons hc [] rest

/-- White space in front is kept by tightening. -/
theorem tighten_blank_append {left : Text} (h : Blank left) (text : Text) :
    Ellipsis.tighten (left ++ text) = left ++ Ellipsis.tighten text := by
  have hsplit := tighten_between h Text.blank_nil text
  rwa [List.append_nil, List.append_nil] at hsplit

/-- A character in front that is no bracket is kept. -/
theorem tighten_cons_of_ne {c : Char} (hc : c ≠ '[') (rest : Text) :
    Ellipsis.tighten (c :: rest) = c :: Ellipsis.tighten rest :=
  Pattern.replaceWith_cons_of_ne hc _ rest

/-- A bracket in front is kept, if there is no ellipsis in it. -/
theorem tighten_cons_of_none {rest : Text} (h : Ellipsis.spaced.body.run rest = none) :
    Ellipsis.tighten ('[' :: rest) = '[' :: Ellipsis.tighten rest :=
  Pattern.replaceWith_cons_of_none h _

/-- An ellipsis in brackets loses the white space around it. -/
theorem tighten_cons_of_some {rest left : Text} {u : Unit}
    (h : Ellipsis.spaced.body.run rest = some (u, left)) :
    Ellipsis.tighten ('[' :: rest) = '[' :: '…' :: ']' :: Ellipsis.tighten left :=
  Pattern.replaceWith_cons_of_some h _

/-- White space inside of ellipses may be removed before or after the reduction. The induction is on
the length, for the white space before a character of ink is reduced as a whole. -/
theorem tighten_reduce (text : Text) :
    Ellipsis.tighten (reduce text) = reduce (Ellipsis.tighten text) := by
  induction hlength : text.length using Nat.strong_induction_on generalizing text with
  | _ length ih =>
    have htext := List.takeWhile_append_dropWhile (p := isWhiteSpace) (l := text)
    have hleft := Text.blank_takeWhile text
    cases hdrop : text.dropWhile isWhiteSpace with
    | nil =>
      rw [hdrop, List.append_nil] at htext
      rw [htext] at hleft
      rw [tighten_blank hleft, tighten_blank (blank_reduce hleft)]
    | cons c tail =>
      have hc : isWhiteSpace c = false := by
        have hnot := List.head?_dropWhile_not isWhiteSpace text
        rw [hdrop] at hnot
        simpa using hnot
      rw [hdrop] at htext
      -- the induction hypothesis, for what is left behind the character of ink
      have hshorter : ∀ rest : Text, rest <:+ tail →
          Ellipsis.tighten (reduce rest) = reduce (Ellipsis.tighten rest) := by
        intro rest hrest
        refine ih rest.length ?_ rest rfl
        have hle := hrest.length_le
        rw [← hlength, ← htext, List.length_append, List.length_cons]
        omega
      rw [← htext, reduce_append_cons hc, tighten_blank_append hleft,
        tighten_blank_append (blank_reduce hleft)]
      by_cases hopening : c = '['
      · subst hopening
        have hrun := run_spaced_reduce tail
        cases hfound : Ellipsis.spaced.body.run tail with
        | none =>
          rw [hfound] at hrun
          rw [tighten_cons_of_none hfound, tighten_cons_of_none hrun, reduce_append_cons hc,
            hshorter tail (List.suffix_refl tail)]
        | some found =>
          rw [hfound] at hrun
          rw [tighten_cons_of_some hfound, tighten_cons_of_some hrun, reduce_append_cons hc,
            reduce_cons (by decide), reduce_cons (by decide),
            hshorter found.2 (Ellipsis.spaced.body.suffix hfound)]
      · rw [tighten_cons_of_ne hopening, tighten_cons_of_ne hopening, reduce_append_cons hc,
          hshorter tail (List.suffix_refl tail)]

/-! ## White space is reduced last -/

/-- A trimmed text stays trimmed by the reduction. -/
theorem trimmed_reduce {text : Text} (h : Trimmed text) : Trimmed (reduce text) where
  head := by
    cases text with
    | nil => exact h.head
    | cons c rest =>
      have hc := h.head c rfl
      rw [reduce_cons hc]
      intro d hd
      obtain rfl := Option.mem_some_iff.mp hd
      exact hc
  last := by
    rcases List.eq_nil_or_concat' text with rfl | ⟨front, c, rfl⟩
    · exact h.last
    · have hc := h.last c (by simp)
      rw [reduce_append_cons hc]
      intro d hd
      obtain rfl : c = d := by simpa [reduce, squeeze, closeLines] using hd
      exact hc

/-- A text may be trimmed before its white space is reduced, or after that. -/
theorem trim_reduce (text : Text) : trim (reduce text) = reduce (trim text) := by
  obtain ⟨left, right, hleft, hright, htext⟩ := Text.exists_eq_trim text
  by_cases hne : trim text = []
  · rw [htext, hne, List.append_nil, trim_blank (blank_reduce (hleft.append hright)),
      trim_blank (hleft.append hright)]
    rfl
  · conv_lhs => rw [htext]
    rw [reduce_between (Text.trimmed_trim text) hne, Text.trim_append_blank (blank_reduce hright),
      Text.trim_blank_append (blank_reduce hleft),
      Text.trim_of_trimmed (trimmed_reduce (Text.trimmed_trim text))]

/-- What is shown of a text, before its white space is reduced: no-break spaces are spaces, invisible
characters go, and so does white space inside of ellipses in brackets, and around the text unless it
is kept. -/
def visible (options : Options) (text : Text) : Text :=
  let tight := Ellipsis.tighten (shown text)
  if options.keepSpace then tight else trim tight

/-- A text without character references is tidied by reducing the white space of what is shown. -/
theorem tidy_eq {text : Text} (h : '&' ∉ text) (options : Options) :
    tidy options text = nfc (reduce (visible options text)) := by
  have hdecode : Entity.decode text = text :=
    Pattern.replaceWith_of_not_occurs (Pattern.not_occurs_of_notMem h) _
  rw [tidy, hdecode, reduceSpace_eq, tighten_reduce, trim_reduce, visible]
  split
  · rfl
  · rfl

/-! ## Newlines that come together -/

/-- Somewhere in a text only characters that are shown as a space, at least one, stand between two
newlines. -/
def Gapped (text : Text) : Prop :=
  ∃ gap, gap ≠ [] ∧ (∀ c ∈ gap, isHorizontal c = true) ∧ '\n' :: (gap ++ ['\n']) <:+: text

/-- A newline in a squeezed text is one of the text. -/
theorem exists_of_squeeze_eq {text front back : Text}
    (h : squeeze isHorizontal text = front ++ '\n' :: back) :
    ∃ before after, text = before ++ '\n' :: after ∧ squeeze isHorizontal before = front ∧
      squeeze isHorizontal after = back := by
  refine Text.exists_of_pass_eq (squeeze_append_cons (by decide)) (fun text hmem => ?_) h
  rcases mem_squeeze hmem with heq | ⟨hmem, -⟩
  · cases heq
  · exact hmem

/-- The texts that are squeezed to a space are the nonempty runs. -/
theorem squeeze_eq_singleton_iff {gap : Text} :
    squeeze isHorizontal gap = [' '] ↔ gap ≠ [] ∧ ∀ c ∈ gap, isHorizontal c = true := by
  induction gap with
  | nil => simp [squeeze]
  | cons c gap ih =>
    by_cases hc : isHorizontal c = true
    · cases gap with
      | nil => simp [squeeze, hc]
      | cons d gap =>
        by_cases hd : isHorizontal d = true
        · rw [squeeze, if_pos hc, if_pos (by simp [hd]), ih]
          simp [hc, hd]
        · rw [squeeze, if_pos hc, if_neg (by simp [hd]), squeeze_cons_of_neg (eq_false_of_ne_true hd)]
          simp [hd]
    · rw [squeeze_cons_of_neg (eq_false_of_ne_true hc)]
      have hne : c ≠ ' ' := by
        rintro rfl
        exact hc (by decide)
      simp [hc, hne]

/-- A squeezed text has a line of one space exactly if the text has a line of spaces. -/
theorem infix_squeeze_iff {text : Text} :
    ['\n', ' ', '\n'] <:+: squeeze isHorizontal text ↔ Gapped text := by
  have hnewline : isHorizontal '\n' = false := by decide
  constructor
  · rintro ⟨front, back, htext⟩
    rw [List.append_assoc] at htext
    obtain ⟨before, after, rfl, -, hafter⟩ := exists_of_squeeze_eq htext.symm
    have hafter : squeeze isHorizontal after = [' '] ++ '\n' :: back := hafter
    obtain ⟨gap, rest, rfl, hgap, -⟩ := exists_of_squeeze_eq hafter
    obtain ⟨hne, hall⟩ := squeeze_eq_singleton_iff.mp hgap
    exact ⟨gap, hne, hall, before, rest, by simp⟩
  · rintro ⟨gap, hne, hall, before, rest, rfl⟩
    have hgap := squeeze_eq_singleton_iff.mpr ⟨hne, hall⟩
    refine ⟨squeeze isHorizontal before, squeeze isHorizontal rest, ?_⟩
    have hsplit : before ++ '\n' :: (gap ++ ['\n']) ++ rest
        = before ++ '\n' :: (gap ++ '\n' :: rest) := by simp
    rw [hsplit, squeeze_append_cons hnewline, squeeze_append_cons hnewline, hgap]
    simp

/-- A closed text begins with a newline if the text does, be it behind one space. -/
theorem head?_closeLines {text : Text} (h : ¬ [' ', ' '] <:+: text) :
    (closeLines text).head? = some '\n' ↔ text.head? = some '\n' ∨ [' ', '\n'] <+: text := by
  have hother : ∀ {c : Char} {rest : Text}, c ≠ '\n' → c ≠ ' ' →
      (closeLines (c :: rest)).head? ≠ some '\n' := by
    intro c rest hnewline hspace
    rw [closeLines_other hnewline hspace]
    simpa using hnewline
  cases text with
  | nil => simp [closeLines]
  | cons c rest =>
    by_cases hnewline : c = '\n'
    · subst hnewline
      simp [head?_closeLines_newline]
    by_cases hspace : c = ' '
    · subst hspace
      rw [closeLines_space]
      cases rest with
      | nil => simp [closeLines]
      | cons d rest =>
        by_cases hd : d = '\n'
        · subst hd
          simp [head?_closeLines_newline]
        -- a space stands alone, so a character of ink comes next and stays
        · have hd' : d ≠ ' ' := by
            rintro rfl
            exact h ⟨[], rest, rfl⟩
          rw [if_neg (hother hd hd')]
          simp [Ne.symm hd]
    · simp [hother hnewline hspace, hnewline, Ne.symm hspace]

/-- Two newlines come together if and only if one space stands between them. -/
theorem infix_closeLines_iff {text : Text} (h : ¬ [' ', ' '] <:+: text) :
    ['\n', '\n'] <:+: closeLines text ↔ ['\n', ' ', '\n'] <:+: text := by
  induction text with
  | nil => simp [closeLines]
  | cons c rest ih =>
    have hrest : ¬ [' ', ' '] <:+: rest := fun hin => h (hin.trans (List.suffix_cons c rest).isInfix)
    have ih := ih hrest
    by_cases hnewline : c = '\n'
    · subst hnewline
      rw [closeLines_newline, List.infix_cons_iff, List.cons_prefix_cons]
      split
      · next hhead =>
        -- of two newlines the first goes, and no space stands between them
        obtain ⟨more, rfl⟩ := List.head?_eq_some_iff.mp hhead
        rw [ih]
        simp
      · next hhead =>
        rw [Text.pair_infix_cons_iff, ih, head?_closeLines hrest]
        simp [hhead]
    · have hskip : ['\n', ' ', '\n'] <:+: c :: rest ↔ ['\n', ' ', '\n'] <:+: rest := by
        rw [List.infix_cons_iff, List.cons_prefix_cons]
        simp [Ne.symm hnewline]
      rw [hskip, ← ih]
      by_cases hspace : c = ' '
      · subst hspace
        rw [closeLines_space]
        split
        · rfl
        · rw [Text.pair_infix_cons_iff]
          simp
      · rw [closeLines_other hnewline hspace, Text.pair_infix_cons_iff]
        simp [hnewline]

/-- Newlines come together where only spaces stood between them. -/
theorem infix_reduce_iff {text : Text} : ['\n', '\n'] <:+: reduce text ↔ Gapped text := by
  rw [reduce, infix_closeLines_iff (not_infix_squeeze text), infix_squeeze_iff]

/-! ## En quads -/

/-- A character that fails the test is kept. -/
theorem mem_squeeze_of_neg {c : Char} (hc : isHorizontal c = false) {text : Text} (h : c ∈ text) :
    c ∈ squeeze isHorizontal text := by
  obtain ⟨before, after, rfl⟩ := List.append_of_mem h
  rw [squeeze_append_cons hc]
  simp

/-- A character other than newlines and spaces is kept. -/
theorem mem_closeLines_of_ne {c : Char} (hnewline : c ≠ '\n') (hspace : c ≠ ' ') {text : Text}
    (h : c ∈ text) : c ∈ closeLines text := by
  induction text with
  | nil => exact h
  | cons d rest ih =>
    have hlater : c ≠ d → c ∈ closeLines rest := fun hne => ih ((List.mem_cons.mp h).resolve_left hne)
    by_cases hd : d = '\n'
    · subst hd
      rw [closeLines_newline]
      split
      · exact hlater hnewline
      · exact List.mem_cons_of_mem _ (hlater hnewline)
    · by_cases hd' : d = ' '
      · subst hd'
        rw [closeLines_space]
        split
        · exact hlater hspace
        · exact List.mem_cons_of_mem _ (hlater hspace)
      · rw [closeLines_other hd hd']
        rcases List.mem_cons.mp h with rfl | h
        · exact List.mem_cons_self
        · exact List.mem_cons_of_mem _ (ih h)

/-- An en quad is no space that is reduced. -/
theorem mem_reduce_enQuad_iff {text : Text} : '\u2000' ∈ reduce text ↔ '\u2000' ∈ text := by
  constructor
  · intro h
    rcases mem_squeeze (mem_closeLines h) with heq | ⟨hmem, -⟩
    · exact absurd heq (by decide)
    · exact hmem
  · exact fun h => mem_closeLines_of_ne (by decide) (by decide) (mem_squeeze_of_neg (by decide) h)

/-- No en space is left after the reduction. -/
theorem notMem_reduce_enSpace (text : Text) : '\u2002' ∉ reduce text := by
  intro h
  rcases mem_squeeze (mem_closeLines h) with heq | ⟨-, hhorizontal⟩
  · exact absurd heq (by decide)
  · exact absurd hhorizontal (by decide)

/-- Characters that take no part in normalization stand side by side afterwards as well. -/
theorem pair_infix_nfc_iff {c d : Char} (hc : Apart c) (hd : Apart d) {text : Text} :
    [c, d] <:+: nfc text ↔ [c, d] <:+: text := by
  refine ⟨pair_infix_of_nfc hc hd, ?_⟩
  rintro ⟨before, after, rfl⟩
  have hnext : nfc (d :: after) = d :: nfc after := hd.nfc_append_cons [] after
  rw [List.append_assoc, List.cons_append, hc.nfc_append_cons, List.singleton_append, hnext]
  exact ⟨nfc before, nfc after, by simp⟩

/-! ## Tidying again -/

/-- A text without ampersands has none after tidying. -/
theorem notMem_tidy_ampersand {text : Text} (h : '&' ∉ text) (options : Options) :
    '&' ∉ tidy options text := by
  rw [tidy_eq h]
  intro hmem
  have hmem := Unicode.apart_ampersand.mem_of_mem_nfc hmem
  rcases mem_squeeze (mem_closeLines hmem) with heq | ⟨hvisible, -⟩
  · cases heq
  have htight : '&' ∈ Ellipsis.tighten (shown text) := by
    rw [visible] at hvisible
    split at hvisible
    · exact hvisible
    · obtain ⟨left, right, -, -, hsplit⟩ := Text.exists_eq_trim (Ellipsis.tighten (shown text))
      rw [hsplit]
      exact List.mem_append_left right (List.mem_append_right left hvisible)
  -- the character was in the text, or the ellipsis was written, which is none
  rcases Pattern.mem_replaceWith htight with hshown | ⟨-, hwritten⟩
  · obtain ⟨c, hc, hbreakable⟩ := List.mem_map.mp (List.mem_of_mem_filter hshown)
    rw [breakable] at hbreakable
    split at hbreakable
    · cases hbreakable
    · exact h (hbreakable ▸ hc)
  · exact absurd hwritten (by decide)

/-- All of a reduced text is visible, and its white space is reduced as it stands. -/
theorem tidy_of_reduced {options : Options} {text : Text} (h : '&' ∉ text) (hreduced : Reduced text)
    (htrim : options.keepSpace = false → trim text = text) :
    tidy options text = nfc (reduce text) := by
  rw [tidy_eq h, visible, shown_of_reduced hreduced, tighten_of_tight hreduced.tight]
  split
  · rfl
  · next hkeep => rw [htrim (eq_false_of_ne_true hkeep)]

/-- The second time only white space is reduced. -/
theorem tidy_tidy_eq {text : Text} (h : '&' ∉ text) (options : Options) :
    tidy options (tidy options text) = nfc (reduce (tidy options text)) := by
  refine tidy_of_reduced (notMem_tidy_ampersand h options) (reduced_tidy options text) ?_
  intro hkeep
  rw [tidy, hkeep]
  exact (Unicode.trim_nfc _).trans (congrArg nfc (Text.trim_trim _))

/-- Two newlines come together exactly if a line of spaces stood between them. -/
theorem infix_tidy_iff {text : Text} (h : '&' ∉ text) (options : Options) :
    ['\n', '\n'] <:+: tidy options text ↔ Gapped (visible options text) := by
  rw [tidy_eq h, pair_infix_nfc_iff apart_newline apart_newline, infix_reduce_iff]

/-- An en space comes of an en quad. -/
theorem mem_tidy_enSpace_iff {text : Text} (h : '&' ∉ text) (options : Options) :
    '\u2002' ∈ tidy options text ↔ '\u2000' ∈ visible options text := by
  rw [tidy_eq h, Unicode.mem_nfc_enSpace_iff, mem_reduce_enQuad_iff]
  simp [notMem_reduce_enSpace]

/-- In a reduced text the last space of a gap is an en space, for no other stands before a newline. -/
theorem mem_enSpace_of_gapped {text : Text} (h : Reduced text) (hgapped : Gapped text) :
    '\u2002' ∈ text := by
  obtain ⟨gap, hne, hall, hin⟩ := hgapped
  obtain ⟨front, c, rfl⟩ := (List.eq_nil_or_concat' gap).resolve_left hne
  have hpair : [c, '\n'] <:+: text := by
    refine List.IsInfix.trans ⟨'\n' :: front, [], ?_⟩ hin
    simp
  have hc : c ∈ text := hpair.subset List.mem_cons_self
  have hhorizontal := hall c (by simp)
  rw [isHorizontal, List.contains_iff_mem] at hhorizontal
  simp only [List.mem_cons, List.not_mem_nil, or_false] at hhorizontal
  rcases hhorizontal with rfl | rfl | rfl | rfl
  · exact absurd hpair h.lines
  · exact absurd (by decide) (h.shown _ hc)
  · exact absurd (by decide) (h.shown _ hc)
  · exact hc

/-- Without double newlines and en spaces a tidied text is settled. -/
theorem settled_tidy {text : Text} (h : '&' ∉ text) {options : Options}
    (hlines : ¬ ['\n', '\n'] <:+: tidy options text) (hspaces : '\u2002' ∉ tidy options text) :
    Settled (tidy options text) where
  reference := Pattern.not_occurs_of_notMem (notMem_tidy_ampersand h options)
  lines := hlines
  spaces := hspaces

/-- Tidying twice writes an en space only where normalization wrote an en quad both times, which it
never writes. -/
theorem notMem_enSpace_tidy_tidy {text : Text} (h : '&' ∉ text) (options : Options) :
    '\u2002' ∉ tidy options (tidy options text) := by
  rw [tidy_tidy_eq h, Unicode.mem_nfc_enSpace_iff, mem_reduce_enQuad_iff]
  rintro (hspace | hquad)
  · exact notMem_reduce_enSpace _ hspace
  · exact Unicode.notMem_nfc_enQuad _ hquad

/-- **A text without character references is settled when it is tidied unless newlines come together in
it or an en quad becomes an en space; and it is settled, with no two newlines side by side, when it is
tidied the third time.** -/
theorem tidy_repeated {text : Text} (h : '&' ∉ text) (options : Options) :
    (Function.IsFixedPt (tidy options) (tidy options text) ↔
      ¬ Gapped (visible options text) ∧ '\u2000' ∉ visible options text) ∧
    (['\n', '\n'] <:+: tidy options text ↔ Gapped (visible options text)) ∧
    Function.IsFixedPt (tidy options) ((tidy options)^[3] text) ∧
    ¬ ['\n', '\n'] <:+: (tidy options)^[3] text := by
  have honce : '&' ∉ tidy options text := notMem_tidy_ampersand h options
  have htwice : '&' ∉ tidy options (tidy options text) := notMem_tidy_ampersand honce options
  refine ⟨⟨fun hfixed => ?_, fun ⟨hgapped, hquad⟩ => ?_⟩, infix_tidy_iff h options, ?_⟩
  · have hspace : '\u2002' ∉ tidy options text := by
      rw [← hfixed]
      exact notMem_enSpace_tidy_tidy h options
    refine ⟨fun hgapped => hspace ?_, mt (mem_tidy_enSpace_iff h options).mpr hspace⟩
    -- newlines that came together come together again, so a gap is left
    refine mem_enSpace_of_gapped (reduced_tidy options text) ?_
    have hlines := (infix_tidy_iff h options).mpr hgapped
    rwa [← hfixed, tidy_tidy_eq h, pair_infix_nfc_iff apart_newline apart_newline,
      infix_reduce_iff] at hlines
  · exact tidy_tidy (settled_tidy h (mt (infix_tidy_iff h options).mp hgapped)
      (mt (mem_tidy_enSpace_iff h options).mp hquad))
  · have hlines : ¬ ['\n', '\n'] <:+: tidy options (tidy options (tidy options text)) := by
      rw [tidy_tidy_eq honce, pair_infix_nfc_iff apart_newline apart_newline, infix_reduce_iff]
      exact fun hgapped => notMem_enSpace_tidy_tidy h options
        (mem_enSpace_of_gapped (reduced_tidy options _) hgapped)
    exact ⟨tidy_tidy (settled_tidy htwice hlines (notMem_enSpace_tidy_tidy honce options)), hlines⟩

/-- Two lines with a line of spaces between them. -/
def spacedLines : Text := "a\n \nb".toList

/-- The third time changes nothing for two lines with a line of spaces between them. -/
theorem tidy_repeated_spacedLines : '&' ∉ spacedLines ∧
    Function.IsFixedPt (tidy .plain) ((tidy .plain)^[3] spacedLines) :=
  ⟨by decide, (tidy_repeated (by decide) .plain).2.2.1⟩

/-- The newlines around a line of spaces come together, and go the next time. -/
theorem tidy_spacedLines : '&' ∉ spacedLines ∧ tidy .plain spacedLines = "a\n\nb".toList ∧
    ['\n', '\n'] <:+: tidy .plain spacedLines ∧
    tidy .plain (tidy .plain spacedLines) ≠ tidy .plain spacedLines := by
  decide +kernel

end WikiText.Tidy
