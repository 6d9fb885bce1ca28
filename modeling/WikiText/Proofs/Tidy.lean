import WikiText.Proofs.Text.Pattern
import WikiText.Proofs.Text.Squeeze
import WikiText.Proofs.Unicode.Normalization
import WikiText.Tidy

/-!
# Tidying twice

White space around a text goes, so it makes no difference before the text is tidied
(`tidy_between`), and a text that keeps it is the tidied text with some white space around
(`exists_tidy_spaced`).

A tidied text may change when it is tidied again: a reference may be spelled by decoded characters,
two newlines meet when the spaces between them go, and normalization writes one kind of white space
as another one that is reduced. `Settled` excludes these three, and `tidy_tidy` says that there is no
other way. Its invariant is `Reduced`, which normalization keeps because the characters that it speaks
of take no part in normalization.
-/

namespace WikiText.Tidy

open Scanner (Blind)
open Text (Blank Trimmed trim squeeze squeeze_cons_of_neg squeeze_append_cons mem_squeeze)
open Unicode (isWhiteSpace Apart nfc)

/-! ## Passes over a text between white space -/

/-- A reference is read without a look at what comes after the text. -/
theorem blind_reference {after : Text} (h : ';' ∉ after) : Entity.reference.Blind after :=
  (Scanner.passing_takeWhile _).bind_blind
    (fun _ => (Scanner.blind_one h).bind fun _ => Scanner.blind_ofOption _)
    (fun _ => (Scanner.refuses_one h).bind _)

/-- Blank texts around are kept by decoding. -/
theorem decode_between {left right : Text} (hleft : Blank left) (hright : Blank right)
    (text : Text) : Entity.decode (left ++ text ++ right) = left ++ Entity.decode text ++ right :=
  Pattern.replaceWith_between (hleft.notMem (by decide))
    (blind_reference (hright.notMem (by decide))) (hright.notMem (by decide)) _ _

/-- An ellipsis in brackets is read without a look at what comes after the text. -/
theorem blind_spaced {after : Text} (h : '…' ∉ after) (h' : ']' ∉ after) :
    Ellipsis.spaced.body.Blind after := by
  have hclose : (Scanner.blanks >>= fun _ => Scanner.one ']').Blind after :=
    (Scanner.passing_skipWhile _).bind_blind (fun _ => Scanner.blind_one h')
      fun _ => Scanner.refuses_one h'
  exact (Scanner.passing_skipWhile _).bind_blind (fun _ => (Scanner.blind_one h).bind fun _ => hclose)
    fun _ => (Scanner.refuses_one h).bind _

/-- Blank texts around are kept by tightening. -/
theorem tighten_between {left right : Text} (hleft : Blank left) (hright : Blank right)
    (text : Text) :
    Ellipsis.tighten (left ++ text ++ right) = left ++ Ellipsis.tighten text ++ right :=
  Pattern.replaceWith_between (hleft.notMem (by decide))
    (blind_spaced (hright.notMem (by decide)) (hright.notMem (by decide)))
    (hright.notMem (by decide)) _ _

/-- Tightening keeps a blank text. -/
theorem tighten_blank {text : Text} (h : Blank text) : Ellipsis.tighten text = text :=
  Pattern.replace_of_not_occurs
    (Pattern.not_occurs_of_notMem (h.notMem (by decide))) _

/-! ## Reduction between white space -/

/-- A text with the characters that are shown as a space written as one, and without invisible
ones. -/
def shown (text : Text) : Text :=
  (text.map breakable).filter (!isInvisible ·)

/-- White space is reduced in two steps: runs become one space, and then lines are closed. -/
def reduce (text : Text) : Text :=
  closeLines (squeeze isHorizontal text)

/-- White space is reduced in what is shown of a text. -/
theorem reduceSpace_eq (text : Text) : reduceSpace text = reduce (shown text) :=
  rfl

theorem shown_append (text rest : Text) : shown (text ++ rest) = shown text ++ shown rest := by
  rw [shown, List.map_append, List.filter_append, shown, shown]

/-- Of a blank text only white space is shown. -/
theorem blank_shown {text : Text} (h : Blank text) : Blank (shown text) := by
  intro c hc
  obtain ⟨d, hd, rfl⟩ := List.mem_map.mp (List.mem_of_mem_filter hc)
  rw [breakable]
  split
  · decide
  · exact h d hd

/-- What is shown as a space is white space. -/
theorem isWhiteSpace_of_isHorizontal {c : Char} (h : isHorizontal c = true) :
    isWhiteSpace c = true := by
  rw [isHorizontal, List.contains_iff_mem] at h
  simp only [List.mem_cons, List.not_mem_nil, or_false] at h
  rcases h with rfl | rfl | rfl | rfl <;> decide

/-- Of newlines side by side the last one is kept. -/
theorem closeLines_newline (rest : Text) :
    closeLines ('\n' :: rest)
      = if rest.head? = some '\n' then closeLines rest else '\n' :: closeLines rest := by
  rw [closeLines, if_pos rfl]

/-- A space before a newline goes. -/
theorem closeLines_space (rest : Text) :
    closeLines (' ' :: rest)
      = if (closeLines rest).head? = some '\n' then closeLines rest else ' ' :: closeLines rest := by
  rw [closeLines, if_neg (by decide), if_pos rfl]
  split
  · next kept heq => rw [heq, List.head?_cons, if_pos rfl]
  · next hother =>
    rw [if_neg]
    intro hhead
    obtain ⟨kept, hkept⟩ := List.head?_eq_some_iff.mp hhead
    exact hother kept hkept

/-- Any other character is kept. -/
theorem closeLines_other {c : Char} (hnewline : c ≠ '\n') (hspace : c ≠ ' ') (rest : Text) :
    closeLines (c :: rest) = c :: closeLines rest := by
  rw [closeLines, if_neg hnewline, if_neg hspace]

/-- A character that is no white space is none of it. -/
theorem ne_of_ink {c d : Char} (hc : isWhiteSpace c = false) (hd : isWhiteSpace d = true) :
    c ≠ d := by
  rintro rfl
  rw [hc] at hd
  cases hd

/-- Lines are closed before and after a character of ink by themselves. -/
theorem closeLines_append_cons {c : Char} (h : isWhiteSpace c = false) (text rest : Text) :
    closeLines (text ++ c :: rest) = closeLines text ++ c :: closeLines rest := by
  have hnewline : c ≠ '\n' := ne_of_ink h (by decide)
  -- whether a newline comes first is decided before the character of ink
  have hhead : ∀ text more : Text,
      (text ++ c :: more).head? = some '\n' ↔ text.head? = some '\n' := by
    intro text more
    cases text with
    | nil => simp [hnewline]
    | cons e text => rfl
  induction text with
  | nil => exact closeLines_other hnewline (ne_of_ink h (by decide)) rest
  | cons d text ih =>
    rw [List.cons_append]
    by_cases hd : d = '\n'
    · subst hd
      rw [closeLines_newline, closeLines_newline, ih]
      by_cases hnext : text.head? = some '\n'
      · rw [if_pos hnext, if_pos ((hhead text rest).mpr hnext)]
      · rw [if_neg hnext, if_neg (mt (hhead text rest).mp hnext)]
        rfl
    · by_cases hd' : d = ' '
      · -- a space looks at the closed rest, which begins with a newline in both or in neither
        subst hd'
        rw [closeLines_space, closeLines_space, ih]
        by_cases hnext : (closeLines text).head? = some '\n'
        · rw [if_pos hnext, if_pos ((hhead _ _).mpr hnext)]
        · rw [if_neg hnext, if_neg (mt (hhead _ _).mp hnext)]
          rfl
      · rw [closeLines_other hd hd', closeLines_other hd hd', ih]
        rfl

/-- No character comes in by closing lines. -/
theorem mem_closeLines {c : Char} {text : Text} (h : c ∈ closeLines text) : c ∈ text := by
  induction text with
  | nil => exact h
  | cons d text ih =>
    by_cases hd : d = '\n'
    · subst hd
      rw [closeLines_newline] at h
      split at h
      · exact List.mem_cons_of_mem _ (ih h)
      · rcases List.mem_cons.mp h with rfl | h
        · exact List.mem_cons_self
        · exact List.mem_cons_of_mem _ (ih h)
    · by_cases hd' : d = ' '
      · subst hd'
        rw [closeLines_space] at h
        split at h
        · exact List.mem_cons_of_mem _ (ih h)
        · rcases List.mem_cons.mp h with rfl | h
          · exact List.mem_cons_self
          · exact List.mem_cons_of_mem _ (ih h)
      · rw [closeLines_other hd hd'] at h
        rcases List.mem_cons.mp h with rfl | h
        · exact List.mem_cons_self
        · exact List.mem_cons_of_mem _ (ih h)

/-- White space is reduced before and after a character of ink by itself. -/
theorem reduce_append_cons {c : Char} (h : isWhiteSpace c = false) (text rest : Text) :
    reduce (text ++ c :: rest) = reduce text ++ c :: reduce rest := by
  have hhorizontal : isHorizontal c = false := by
    by_contra hc
    rw [isWhiteSpace_of_isHorizontal (eq_true_of_ne_false hc)] at h
    cases h
  rw [reduce, squeeze_append_cons hhorizontal, closeLines_append_cons h, reduce, reduce]

/-- White space is reduced to white space. -/
theorem blank_reduce {text : Text} (h : Blank text) : Blank (reduce text) := by
  intro c hc
  rcases mem_squeeze (mem_closeLines hc) with rfl | ⟨hmem, -⟩
  · decide
  · exact h c hmem

/-- White space around a trimmed text is reduced by itself. -/
theorem reduce_between {text : Text} (h : Trimmed text) (hne : text ≠ []) (left right : Text) :
    reduce (left ++ text ++ right) = reduce left ++ reduce text ++ reduce right := by
  have hright : reduce (text ++ right) = reduce text ++ reduce right := by
    obtain ⟨front, c, rfl⟩ := (List.eq_nil_or_concat' text).resolve_left hne
    have hc := h.last c (by simp)
    have hend := reduce_append_cons hc front []
    rw [List.append_assoc, List.singleton_append, reduce_append_cons hc, hend, List.append_assoc]
    rfl
  rw [List.append_assoc, List.append_assoc, ← hright]
  cases text with
  | nil => exact absurd rfl hne
  | cons c rest =>
    have hc := h.head c rfl
    have hstart := reduce_append_cons hc [] (rest ++ right)
    rw [List.nil_append] at hstart
    rw [List.cons_append, reduce_append_cons hc, hstart]
    rfl

/-- Nothing is left of a blank text. -/
theorem trim_blank {text : Text} (h : Blank text) : trim text = [] := by
  rw [← List.append_nil text, Text.trim_blank_append h]
  rfl

/-- A text may be trimmed before its white space is reduced. -/
theorem trim_tighten_reduce (text : Text) :
    trim (Ellipsis.tighten (reduce text)) = trim (Ellipsis.tighten (reduce (trim text))) := by
  obtain ⟨left, right, hleft, hright, htext⟩ := Text.exists_eq_trim text
  by_cases hne : trim text = []
  · have hblank : Blank (reduce text) := by
      rw [htext, hne, List.append_nil]
      exact blank_reduce (hleft.append hright)
    rw [hne, tighten_blank hblank, trim_blank hblank, tighten_blank (blank_reduce Text.blank_nil)]
    rfl
  · conv_lhs => rw [htext]
    rw [reduce_between (Text.trimmed_trim text) hne,
      tighten_between (blank_reduce hleft) (blank_reduce hright),
      Text.trim_append_blank (blank_reduce hright), Text.trim_blank_append (blank_reduce hleft)]

/-! ## Tidying between white space -/

/-- A text that is tidied as usual is decoded, reduced, tightened, trimmed and normalized. -/
theorem tidy_plain (text : Text) :
    tidy .plain text = nfc (trim (Ellipsis.tighten (reduceSpace (Entity.decode text)))) :=
  rfl

/-- White space around a text makes no difference when the text is tidied. -/
theorem tidy_between {left right : Text} (hleft : Blank left) (hright : Blank right) (text : Text) :
    tidy .plain (left ++ text ++ right) = tidy .plain text := by
  have hcore : ∀ part : Text, trim (Ellipsis.tighten (reduceSpace part))
      = trim (Ellipsis.tighten (reduce (trim (shown part)))) :=
    fun part => trim_tighten_reduce (shown part)
  rw [tidy_plain, tidy_plain, decode_between hleft hright, hcore, hcore, shown_append, shown_append,
    Text.trim_append_blank (blank_shown hright), Text.trim_blank_append (blank_shown hleft)]

/-- A text that keeps the white space around it is tidied like one that does not. -/
theorem exists_tidy_spaced (text : Text) :
    ∃ left right, Blank left ∧ Blank right ∧
      tidy .spaced text = left ++ tidy .plain text ++ right := by
  obtain ⟨left, right, hleft, hright, htext⟩ :=
    Text.exists_eq_trim (Ellipsis.tighten (reduceSpace (Entity.decode text)))
  obtain ⟨left', hleft', hnfcleft⟩ := Unicode.exists_nfc_blank_append hleft
  obtain ⟨right', hright', hnfcright⟩ := Unicode.exists_nfc_append_blank hright
  refine ⟨left', right', hleft', hright', ?_⟩
  have hspaced : tidy .spaced text
      = nfc (Ellipsis.tighten (reduceSpace (Entity.decode text))) := rfl
  rw [hspaced, htext, List.append_assoc, hnfcleft, hnfcright, ← List.append_assoc]
  rfl

/-! ## Ellipses in brackets -/

/-- The white space in front is skipped. -/
theorem run_blanks (text : Text) :
    Scanner.blanks.run text = some ((), text.dropWhile isWhiteSpace) :=
  rfl

/-- An ellipsis in brackets is read where it stands, with the white space inside. -/
theorem run_spaced {text rest : Text} {u : Unit} :
    Ellipsis.spaced.body.run text = some (u, rest) ↔
      ∃ before after, Blank before ∧ Blank after ∧
        text = before ++ '…' :: (after ++ ']' :: rest) := by
  constructor
  · intro hrun
    obtain ⟨_, text', hbefore, hrun⟩ := Scanner.exists_of_bind hrun
    obtain ⟨_, inner, hdots, hrun⟩ := Scanner.exists_of_bind hrun
    obtain ⟨_, inner', hafter, hclose⟩ := Scanner.exists_of_bind hrun
    obtain ⟨d, _, hdots, hpure⟩ := Scanner.exists_of_bind hdots
    cases hpure
    obtain ⟨e, _, hclose, hpure⟩ := Scanner.exists_of_bind hclose
    cases hpure
    obtain ⟨hd, rfl⟩ := Scanner.run_satisfy_eq_some.mp hdots
    obtain ⟨he, rfl⟩ := Scanner.run_satisfy_eq_some.mp hclose
    rw [run_blanks] at hbefore hafter
    refine ⟨text.takeWhile isWhiteSpace, inner.takeWhile isWhiteSpace, Text.blank_takeWhile text,
      Text.blank_takeWhile inner, ?_⟩
    rw [← eq_of_beq hd, ← eq_of_beq he, ← (Prod.mk.inj (Option.some.inj hafter)).2,
      List.takeWhile_append_dropWhile, ← (Prod.mk.inj (Option.some.inj hbefore)).2,
      List.takeWhile_append_dropWhile]
  -- both runs of white space are as long as possible, for a dot and a bracket end them
  · rintro ⟨before, after, hbefore, hafter, rfl⟩
    have hfirst : Scanner.blanks.run (before ++ '…' :: (after ++ ']' :: rest))
        = some ((), '…' :: (after ++ ']' :: rest)) := by
      rw [run_blanks, List.dropWhile_append_of_pos hbefore]
      rfl
    have hsecond : Scanner.blanks.run (after ++ ']' :: rest) = some ((), ']' :: rest) := by
      rw [run_blanks, List.dropWhile_append_of_pos hafter]
      rfl
    have hbody : ∀ input, Ellipsis.spaced.body.run input
        = (Scanner.blanks.run input).bind fun first =>
            ((Scanner.one '…').run first.2).bind fun dots =>
              (Scanner.blanks.run dots.2).bind fun second => (Scanner.one ']').run second.2 :=
      fun _ => rfl
    have hdots : ∀ inner : Text, (Scanner.one '…').run ('…' :: inner) = some ((), inner) :=
      fun _ => rfl
    simp only [hbody, hfirst, Option.bind_some, hdots, hsecond]
    rfl

/-- The ellipses in brackets of a text have no white space inside. -/
def Tight (text : Text) : Prop :=
  ∀ before after, Blank before → Blank after →
    '[' :: (before ++ '…' :: (after ++ [']'])) <:+: text → before = [] ∧ after = []

/-- Every part of a tight text is tight. -/
theorem Tight.of_part {part text : Text} (h : Tight text) (hpart : part <:+: text) : Tight part :=
  fun before after hbefore hafter hin => h before after hbefore hafter (hin.trans hpart)

/-- Tightening keeps a tight text. -/
theorem tighten_of_tight {text : Text} (h : Tight text) : Ellipsis.tighten text = text := by
  rw [Ellipsis.tighten, Pattern.replace]
  induction text using Pattern.pieces.induct Ellipsis.spaced with
  | case1 => exact Pattern.replaceWith_nil _ _
  | case2 tail value rest hsome ih =>
    obtain ⟨before, after, hbefore, hafter, rfl⟩ := run_spaced.mp hsome
    obtain ⟨rfl, rfl⟩ := h before after hbefore hafter ⟨[], rest, by simp [Ellipsis.spaced]⟩
    have hrest : Tight rest := h.of_part ⟨['[', '…', ']'], [], by simp [Ellipsis.spaced]⟩
    rw [Pattern.replaceWith_cons_of_some hsome, ih hrest]
    rfl
  | case3 tail hnone ih =>
    rw [Pattern.replaceWith_cons_of_none hnone,
      ih (h.of_part (List.suffix_cons _ tail).isInfix)]
  | case4 c tail hc ih =>
    rw [Pattern.replaceWith_cons_of_ne hc, ih (h.of_part (List.suffix_cons _ tail).isInfix)]

/-- What is tightened is a tight text. -/
theorem tight_tighten (text : Text) : Tight (Ellipsis.tighten text) := by
  rw [Ellipsis.tighten, Pattern.replace]
  intro before after hbefore hafter hin
  have hhead : ∀ {front more other : Text} {c d : Char}, Blank front → isWhiteSpace d = false →
      front ++ c :: more <+: d :: other → front = [] ∧ more <+: other := by
    intro front more other c d hfront hd hprefix
    cases front with
    | nil => exact ⟨rfl, (List.cons_prefix_cons.mp hprefix).2⟩
    | cons e front =>
      rw [← (List.cons_prefix_cons.mp hprefix).1, hfront e List.mem_cons_self] at hd
      cases hd
  induction text using Pattern.pieces.induct Ellipsis.spaced with
  | case1 =>
    rw [Pattern.replaceWith_nil] at hin
    cases List.eq_nil_of_infix_nil hin
  | case2 tail value rest hsome ih =>
    rw [Pattern.replaceWith_cons_of_some hsome] at hin
    rcases List.infix_cons_iff.mp hin with hprefix | hin
    · obtain ⟨hnil, hrest⟩ := hhead hbefore (d := '…') (by decide)
        (List.cons_prefix_cons.mp hprefix).2
      exact ⟨hnil, (hhead hafter (d := ']') (by decide) hrest).1⟩
    · -- what is written for the ellipsis has no other opening bracket
      rcases List.infix_cons_iff.mp hin with hprefix | hin
      · cases (List.cons_prefix_cons.mp hprefix).1
      · rcases List.infix_cons_iff.mp hin with hprefix | hin
        · cases (List.cons_prefix_cons.mp hprefix).1
        · exact ih hin
  | case3 tail hnone ih =>
    rw [Pattern.replaceWith_cons_of_none hnone] at hin
    rcases List.infix_cons_iff.mp hin with hprefix | hin
    · -- an ellipsis that stands here would have been found
      obtain ⟨back, hback⟩ := (List.cons_prefix_cons.mp hprefix).2
      have hfront : Ellipsis.spaced.opening ∉ before ++ '…' :: (after ++ [']']) := by
        have hb := hbefore.notMem (c := '[') (by decide)
        have ha := hafter.notMem (c := '[') (by decide)
        simp [Ellipsis.spaced, hb, ha]
      obtain ⟨rest, rfl, -⟩ := Pattern.exists_of_replaceWith_eq (fun _ => rfl) hfront hback.symm
      have hrun : Ellipsis.spaced.body.run (before ++ '…' :: (after ++ [']']) ++ rest)
          = some ((), rest) := run_spaced.mpr ⟨before, after, hbefore, hafter, by simp⟩
      rw [hrun] at hnone
      cases hnone
    · exact ih hin
  | case4 c tail hc ih =>
    rw [Pattern.replaceWith_cons_of_ne hc] at hin
    rcases List.infix_cons_iff.mp hin with hprefix | hin
    · exact absurd (List.cons_prefix_cons.mp hprefix).1.symm hc
    · exact ih hin

/-! ## Reduced texts -/

/-- Characters that are shown as a space, but for the one that others are normalized to, and
characters that are not shown at all. -/
def unshown : List Char :=
  ['\t', '\r', '\u00a0', '\u200e', '\u200f', '\u200b', '\u200d', '\u200c', '\ufeff']

/-- What the reduction of white space leaves: single spaces, none of them before a newline, no
invisible characters, and no white space around an ellipsis in brackets. -/
structure Reduced (text : Text) : Prop where
  shown : ∀ c ∈ text, c ∉ unshown
  spaces : ¬ [' ', ' '] <:+: text
  lines : ¬ [' ', '\n'] <:+: text
  tight : Tight text

/-- Every part of a reduced text is reduced. -/
theorem Reduced.of_part {part text : Text} (h : Reduced text) (hpart : part <:+: text) :
    Reduced part where
  shown c hc := h.shown c (hpart.subset hc)
  spaces hin := h.spaces (hin.trans hpart)
  lines hin := h.lines (hin.trans hpart)
  tight := h.tight.of_part hpart

/-- No two spaces stand side by side after squeezing. -/
theorem not_infix_squeeze (text : Text) : ¬ [' ', ' '] <:+: squeeze isHorizontal text := by
  induction text with
  | nil => exact fun hin => by cases List.eq_nil_of_infix_nil hin
  | cons c text ih =>
    by_cases hc : isHorizontal c = true
    · rw [squeeze, if_pos hc]
      split
      · exact ih
      -- a space is put down only in front of a character that is not horizontal
      · next hnext =>
        intro hin
        rcases Text.pair_infix_cons_iff.mp hin with ⟨-, hhead⟩ | hin
        · cases text with
          | nil => cases hhead
          | cons d text =>
            have hd : isHorizontal d = false := by simpa using hnext
            rw [squeeze_cons_of_neg hd] at hhead
            rw [Option.some.inj hhead] at hd
            exact absurd hd (by decide)
        · exact ih hin
    · rw [squeeze_cons_of_neg (eq_false_of_ne_true hc)]
      intro hin
      rcases Text.pair_infix_cons_iff.mp hin with ⟨rfl, -⟩ | hin
      · exact hc (by decide)
      · exact ih hin

/-- A newline at the beginning of a text stays there when lines are closed. -/
theorem head?_closeLines_newline (rest : Text) :
    (closeLines ('\n' :: rest)).head? = some '\n' := by
  induction rest with
  | nil => rfl
  | cons c rest ih =>
    rw [closeLines_newline]
    split
    · next hhead => rwa [Option.some.inj hhead]
    · rfl

/-- No space stands before a newline when lines are closed. -/
theorem not_infix_closeLines (text : Text) : ¬ [' ', '\n'] <:+: closeLines text := by
  induction text with
  | nil => exact fun hin => by cases List.eq_nil_of_infix_nil hin
  | cons c text ih =>
    by_cases hnewline : c = '\n'
    · subst hnewline
      rw [closeLines_newline]
      split
      · exact ih
      · rw [Text.pair_infix_cons_iff]
        rintro (⟨heq, -⟩ | hin)
        · cases heq
        · exact ih hin
    · by_cases hspace : c = ' '
      · subst hspace
        rw [closeLines_space]
        split
        · exact ih
        · next hnext =>
          rw [Text.pair_infix_cons_iff]
          rintro (⟨-, hhead⟩ | hin)
          · exact hnext hhead
          · exact ih hin
      · rw [closeLines_other hnewline hspace, Text.pair_infix_cons_iff]
        rintro (⟨heq, -⟩ | hin)
        · exact hspace heq
        · exact ih hin

/-- Spaces do not come together when lines are closed, for what is removed stands before a
newline. -/
theorem not_infix_spaces_closeLines {text : Text} (h : ¬ [' ', ' '] <:+: text) :
    ¬ [' ', ' '] <:+: closeLines text := by
  induction text with
  | nil => exact h
  | cons c text ih =>
    rw [Text.pair_infix_cons_iff, not_or] at h
    have ih := ih h.2
    -- only a kept space could come to stand before another one
    by_cases hnewline : c = '\n'
    · subst hnewline
      rw [closeLines_newline]
      split
      · exact ih
      · rw [Text.pair_infix_cons_iff]
        rintro (⟨heq, -⟩ | hin)
        · cases heq
        · exact ih hin
    · by_cases hspace : c = ' '
      · subst hspace
        rw [closeLines_space]
        split
        · exact ih
        · rw [Text.pair_infix_cons_iff]
          rintro (⟨-, hhead⟩ | hin)
          · -- what follows the space begins with none, and a newline stays one
            cases text with
            | nil => cases hhead
            | cons d text =>
              by_cases hd : d = '\n'
              · subst hd
                rw [head?_closeLines_newline] at hhead
                cases hhead
              · have hd' : d ≠ ' ' := fun heq => h.1 ⟨rfl, by rw [heq]; rfl⟩
                rw [closeLines_other hd hd'] at hhead
                exact hd' (Option.some.inj hhead)
          · exact ih hin
      · rw [closeLines_other hnewline hspace, Text.pair_infix_cons_iff]
        rintro (⟨heq, -⟩ | hin)
        · exact hspace heq
        · exact ih hin

/-- After the reduction only one kind of space and no invisible character is left. -/
theorem notMem_unshown_of_mem_reduceSpace {c : Char} {text : Text} (h : c ∈ reduceSpace text) :
    c ∉ unshown := by
  rcases mem_squeeze (mem_closeLines h) with rfl | ⟨hmem, hhorizontal⟩
  · decide
  · obtain ⟨hmem, hvisible⟩ := List.mem_filter.mp hmem
    obtain ⟨d, -, rfl⟩ := List.mem_map.mp hmem
    have hbreak : breakable d ≠ '\u00a0' := by
      rw [breakable]
      split
      · decide
      · next hne => exact hne
    intro hin
    -- each of the listed characters is made breakable, squeezed, or dropped as invisible
    have hcases : breakable d = '\u00a0' ∨ isHorizontal (breakable d) = true
        ∨ isInvisible (breakable d) = true := by
      revert hin
      generalize breakable d = e
      intro hin
      simp only [unshown, List.mem_cons, List.not_mem_nil, or_false] at hin
      rcases hin with rfl | rfl | rfl | rfl | rfl | rfl | rfl | rfl | rfl <;> decide
    rcases hcases with hcase | hcase | hcase
    · exact hbreak hcase
    · rw [hcase] at hhorizontal
      cases hhorizontal
    · rw [hcase] at hvisible
      cases hvisible

/-- Reducing white space makes a text reduced. -/
theorem reduced_tighten_reduceSpace (text : Text) :
    Reduced (Ellipsis.tighten (reduceSpace text)) where
  shown c hc := by
    rcases Pattern.mem_replaceWith hc with hmem | ⟨-, hmem⟩
    · exact notMem_unshown_of_mem_reduceSpace hmem
    · simp only [List.mem_cons, List.not_mem_nil, or_false] at hmem
      rcases hmem with rfl | rfl | rfl <;> decide
  spaces hin :=
    not_infix_spaces_closeLines (not_infix_squeeze _)
      (Pattern.pair_infix_of_replaceWith (fun _ => by decide) (fun _ => by decide)
        (fun _ => by decide) hin)
  lines hin :=
    not_infix_closeLines _
      (Pattern.pair_infix_of_replaceWith (fun _ => by decide) (fun _ => by decide)
        (fun _ => by decide) hin)
  tight := tight_tighten _

/-! ## Reduced texts and normalization -/

/-- The space takes no part in normalization. -/
theorem apart_space : Apart ' ' :=
  Unicode.apart_of_isWhiteSpace (by decide) (by decide)

/-- The newline takes no part in normalization. -/
theorem apart_newline : Apart '\n' :=
  Unicode.apart_of_isWhiteSpace (by decide) (by decide)

/-- The characters that the reduction removes take no part in normalization. -/
theorem apart_of_mem_unshown {c : Char} (h : c ∈ unshown) : Apart c := by
  have hcases : isWhiteSpace c = true ∧ c.toNat < 0x2000 ∨ c ∈ Unicode.signs := by
    simp only [unshown, List.mem_cons, List.not_mem_nil, or_false] at h
    rcases h with rfl | rfl | rfl | rfl | rfl | rfl | rfl | rfl | rfl <;> decide
  rcases hcases with ⟨hblank, hlow⟩ | hsign
  · exact Unicode.apart_of_isWhiteSpace hblank (.inl hlow)
  · exact Unicode.apart_of_mem_signs hsign

/-- Characters that take no part in normalization stand side by side as they did before. -/
theorem pair_infix_of_nfc {c d : Char} (hc : Apart c) (hd : Apart d) {text : Text}
    (h : [c, d] <:+: nfc text) : [c, d] <:+: text := by
  obtain ⟨front, back, htext⟩ := h
  rw [List.append_assoc, List.cons_append] at htext
  obtain ⟨before, after, rfl, -, hafter⟩ := hc.exists_of_nfc_eq htext.symm
  have hafter : nfc after = [] ++ d :: back := hafter
  obtain ⟨between, rest, rfl, hbetween, -⟩ := hd.exists_of_nfc_eq hafter
  have hnil : between = [] := by
    by_contra hne
    exact Unicode.nfc_ne_nil hne hbetween
  rw [hnil]
  exact ⟨before, rest, by simp⟩

/-- Normalization keeps a text tight. -/
theorem tight_nfc {text : Text} (h : Tight text) : Tight (nfc text) := by
  intro before after hbefore hafter ⟨front, back, htext⟩
  have hsign : ∀ {c : Char}, c ∈ Unicode.signs → Apart c := Unicode.apart_of_mem_signs
  rw [List.append_assoc, List.cons_append, List.append_assoc, List.cons_append,
    List.append_assoc] at htext
  obtain ⟨outside, inside, rfl, -, hinside⟩ :=
    (hsign (c := '[') (by decide)).exists_of_nfc_eq htext.symm
  obtain ⟨before', rest, rfl, hnfcbefore, hrest⟩ :=
    (hsign (c := '…') (by decide)).exists_of_nfc_eq hinside
  obtain ⟨after', rest', rfl, hnfcafter, -⟩ :=
    (hsign (c := ']') (by decide)).exists_of_nfc_eq hrest
  subst hnfcbefore hnfcafter
  obtain ⟨rfl, rfl⟩ := h before' after' (Unicode.blank_of_blank_nfc hbefore)
    (Unicode.blank_of_blank_nfc hafter) ⟨outside, rest', by simp⟩
  exact ⟨rfl, rfl⟩

/-- A reduced text stays so when it is normalized. -/
theorem Reduced.nfc {text : Text} (h : Reduced text) : Reduced (nfc text) where
  shown c hc hin := h.shown c ((apart_of_mem_unshown hin).mem_of_mem_nfc hc) hin
  spaces hin := h.spaces (pair_infix_of_nfc apart_space apart_space hin)
  lines hin := h.lines (pair_infix_of_nfc apart_space apart_newline hin)
  tight := tight_nfc h.tight

/-! ## Tidying twice -/

/-- A tidied text in which tidying finds nothing more to do: no reference to a character, no two
newlines side by side, and no en space. -/
structure Settled (text : Text) : Prop where
  reference : Entity.pattern.occurs text = false
  lines : ¬ ['\n', '\n'] <:+: text
  spaces : '\u2002' ∉ text

/-- A reduced text is shown as it is. -/
theorem shown_of_reduced {text : Text} (h : Reduced text) : shown text = text := by
  have hbreakable : text.map breakable = text := by
    rw [List.map_congr_left (g := id), List.map_id]
    intro c hc
    rw [breakable, if_neg fun heq => h.shown c hc (by rw [heq]; decide)]
    rfl
  rw [shown, hbreakable, List.filter_eq_self]
  intro c hc
  by_contra hinvisible
  rw [Bool.not_eq_true, Bool.not_eq_false', isInvisible, List.contains_iff_mem] at hinvisible
  exact h.shown c hc (List.mem_append_right ['\t', '\r', '\u00a0'] hinvisible)

/-- A text with single spaces is kept by squeezing. -/
theorem squeeze_of_single {text : Text} (hspace : ∀ c ∈ text, isHorizontal c = true → c = ' ')
    (h : ¬ [' ', ' '] <:+: text) : squeeze isHorizontal text = text := by
  induction text with
  | nil => rfl
  | cons c text ih =>
    rw [Text.pair_infix_cons_iff, not_or] at h
    have ih := ih (fun d hd => hspace d (List.mem_cons_of_mem c hd)) h.2
    by_cases hc : isHorizontal c = true
    · have heq := hspace c List.mem_cons_self hc
      subst heq
      rw [squeeze, if_pos hc, if_neg, ih]
      intro hnext
      cases text with
      | nil => cases hnext
      | cons d text =>
        have hd := hspace d (by simp) (by simpa using hnext)
        exact h.1 ⟨rfl, by rw [hd]; rfl⟩
    · rw [squeeze_cons_of_neg (eq_false_of_ne_true hc), ih]

/-- A text without double newlines and spaces before newlines is kept when lines are closed. -/
theorem closeLines_of_closed {text : Text} (hspace : ¬ [' ', '\n'] <:+: text)
    (hnewline : ¬ ['\n', '\n'] <:+: text) : closeLines text = text := by
  induction text with
  | nil => rfl
  | cons c text ih =>
    rw [Text.pair_infix_cons_iff, not_or] at hspace hnewline
    have ih := ih hspace.2 hnewline.2
    by_cases hc : c = '\n'
    · subst hc
      rw [closeLines_newline, if_neg fun hhead => hnewline.1 ⟨rfl, hhead⟩, ih]
    · by_cases hc' : c = ' '
      · subst hc'
        rw [closeLines_space, ih, if_neg fun hhead => hspace.1 ⟨rfl, hhead⟩]
      · rw [closeLines_other hc hc', ih]

/-- In a reduced text without double newlines and en spaces nothing is reduced. -/
theorem reduceSpace_of_reduced {text : Text} (h : Reduced text) (hsettled : Settled text) :
    reduceSpace text = text := by
  have hspace : ∀ c ∈ text, isHorizontal c = true → c = ' ' := by
    intro c hc hhorizontal
    rw [isHorizontal, List.contains_iff_mem] at hhorizontal
    simp only [List.mem_cons, List.not_mem_nil, or_false] at hhorizontal
    rcases hhorizontal with rfl | rfl | rfl | rfl
    · rfl
    · exact absurd (by decide) (h.shown _ hc)
    · exact absurd (by decide) (h.shown _ hc)
    · exact absurd hc hsettled.spaces
  rw [reduceSpace_eq, shown_of_reduced h, reduce, squeeze_of_single hspace h.spaces,
    closeLines_of_closed h.lines hsettled.lines]

/-- A tidied text is reduced, whether or not it keeps the white space around it. -/
theorem reduced_tidy (options : Options) (text : Text) : Reduced (tidy options text) := by
  have hreduced := reduced_tighten_reduceSpace (Entity.decode text)
  unfold tidy
  split
  · exact hreduced.nfc
  · obtain ⟨left, right, -, -, hsplit⟩ :=
      Text.exists_eq_trim (Ellipsis.tighten (reduceSpace (Entity.decode text)))
    exact (hreduced.of_part ⟨left, right, hsplit.symm⟩).nfc

/-- **A tidied text that is settled is left alone when it is tidied again.** -/
theorem tidy_tidy {options : Options} {text : Text} (h : Settled (tidy options text)) :
    tidy options (tidy options text) = tidy options text := by
  have hreduced := reduced_tidy options text
  have hdecode : Entity.decode (tidy options text) = tidy options text :=
    Pattern.replaceWith_of_not_occurs h.reference _
  have htrim : (if options.keepSpace then tidy options text else trim (tidy options text))
      = tidy options text := by
    split
    · rfl
    · next hkeep => rw [tidy, if_neg hkeep, Unicode.trim_nfc, Text.trim_trim]
  have hnfc : nfc (tidy options text) = tidy options text := Unicode.nfc_nfc _
  -- each stage leaves the result of the first run alone
  have htwice : tidy options (tidy options text) = nfc
      (if options.keepSpace then
        Ellipsis.tighten (reduceSpace (Entity.decode (tidy options text)))
      else trim (Ellipsis.tighten (reduceSpace (Entity.decode (tidy options text))))) := rfl
  rw [htwice, hdecode, reduceSpace_of_reduced hreduced h, tighten_of_tight hreduced.tight, htrim,
    hnfc]

end WikiText.Tidy
