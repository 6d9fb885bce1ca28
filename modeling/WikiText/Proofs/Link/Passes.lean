import Mathlib.Data.List.TakeWhile
import Mathlib.Dynamics.FixedPoints.Basic
import WikiText.Clean

/-!
# Passes over links

`Link.resolveAll` repeats one pass over the links of a text, in at most one pass more than the text
opens links. The text it returns is the iterate of that many passes (`value_resolveAll`).

The budget rests on the idea that each pass that changes the text takes an opening `[[` away. That
fails where brackets come together: a category that is dropped takes the white space before it along,
and a label may bring brackets of its own. Where the links that a pass asks about are all harmless,
the pass keeps to the idea (`afterPass_lowers`), and where this is so for all passes the budget
suffices (`isFixedPt_of_harmless`).

The count is followed along the scan. `opened` is the text written out for the open links, and the
invariant `AllApart` says that at each of them the text before it does not end in a bracket that
still waits for its partner.
-/

namespace WikiText.Link

open Function (IsFixedPt)
open Unicode (isWhiteSpace)

/-! ## Pairs of opening brackets -/

/-- The number of opening brackets of links in a text. -/
def pairs (text : Text) : ℕ :=
  text.countPairs '[' '['

/-- Whether a text, read in pairs of opening brackets, ends in one without a partner. -/
def endsSingle : Text → Bool
  | [] => false
  | [c] => c = '['
  | c :: d :: rest => if c = '[' ∧ d = '[' then endsSingle rest else endsSingle (d :: rest)

/-- Whether an opening bracket without a partner stands before a character of a kind. -/
def singleBefore (kind : Char → Bool) : Text → Bool
  | [] => false
  | [_] => false
  | c :: d :: rest =>
    if c = '[' ∧ d = '[' then singleBefore kind rest
    else (c = '[' && kind d) || singleBefore kind (d :: rest)

/-- A character that is no opening bracket begins no pair. -/
theorem pairs_cons_of_ne {c : Char} (h : c ≠ '[') (rest : Text) : pairs (c :: rest) = pairs rest := by
  cases rest with
  | nil => rfl
  | cons d rest => simp [pairs, Text.countPairs, h]

/-- A character that is no opening bracket is no single one. -/
theorem singleBefore_cons_of_ne (kind : Char → Bool) {c : Char} (h : c ≠ '[') (rest : Text) :
    singleBefore kind (c :: rest) = singleBefore kind rest := by
  cases rest with
  | nil => rfl
  | cons d rest => simp [singleBefore, h]

/-- A character that is no opening bracket does not change the pairs behind it. -/
theorem endsSingle_cons_of_ne {c : Char} (h : c ≠ '[') (rest : Text) :
    endsSingle (c :: rest) = endsSingle rest := by
  cases rest with
  | nil => simp [endsSingle, h]
  | cons d rest => simp [endsSingle, h]

/-- Behind a text whose brackets all have partners, the pairs are counted anew. -/
theorem pairs_append {text : Text} (h : endsSingle text = false) (rest : Text) :
    pairs (text ++ rest) = pairs text + pairs rest := by
  fun_induction endsSingle text with
  | case1 => simp [pairs, Text.countPairs]
  | case2 c =>
    have hc : c ≠ '[' := by simpa using h
    rw [List.singleton_append, pairs_cons_of_ne hc, pairs_cons_of_ne hc]
    simp [pairs, Text.countPairs]
  | case3 c d others hpair ih =>
    have ih := ih h
    simp only [pairs] at ih ⊢
    rw [List.cons_append, List.cons_append, Text.countPairs, Text.countPairs,
      if_pos (by simpa using hpair), if_pos (by simpa using hpair), ih]
    omega
  | case4 c d others hpair ih =>
    have ih := ih h
    simp only [pairs] at ih ⊢
    rw [List.cons_append, List.cons_append, Text.countPairs, Text.countPairs,
      if_neg (by simpa using hpair), if_neg (by simpa using hpair), ← List.cons_append, ih]

/-- Any other character parts the brackets before it from those behind it. -/
theorem pairs_append_cons {c : Char} (h : c ≠ '[') (text rest : Text) :
    pairs (text ++ c :: rest) = pairs text + pairs rest := by
  fun_induction endsSingle text with
  | case1 =>
    rw [List.nil_append, pairs_cons_of_ne h]
    exact (Nat.zero_add _).symm
  | case2 d =>
    rw [← pairs_cons_of_ne h rest]
    simp [pairs, Text.countPairs, h]
  | case3 d e others hpair ih =>
    simp only [pairs] at ih ⊢
    rw [List.cons_append, List.cons_append, Text.countPairs, Text.countPairs,
      if_pos (by simpa using hpair), if_pos (by simpa using hpair), ih]
    omega
  | case4 d e others hpair ih =>
    simp only [pairs] at ih ⊢
    rw [List.cons_append, List.cons_append, Text.countPairs, Text.countPairs,
      if_neg (by simpa using hpair), if_neg (by simpa using hpair), ← List.cons_append, ih]

/-- Behind a text whose brackets have partners, pairs are read as from the start. -/
theorem endsSingle_append {text : Text} (h : endsSingle text = false) (rest : Text) :
    endsSingle (text ++ rest) = endsSingle rest := by
  fun_induction endsSingle text with
  | case1 => rfl
  | case2 c => exact endsSingle_cons_of_ne (by simpa using h) rest
  | case3 c d others hpair ih =>
    rw [List.cons_append, List.cons_append, endsSingle, if_pos hpair, ih h]
  | case4 c d others hpair ih =>
    rw [List.cons_append, List.cons_append, endsSingle, if_neg hpair, ← List.cons_append, ih h]

/-- Behind a text whose brackets have partners, single brackets are found as from the start. -/
theorem singleBefore_append (kind : Char → Bool) {text : Text} (h : endsSingle text = false)
    (rest : Text) :
    singleBefore kind (text ++ rest) = (singleBefore kind text || singleBefore kind rest) := by
  fun_induction endsSingle text with
  | case1 => rfl
  | case2 c => exact singleBefore_cons_of_ne kind (by simpa using h) rest
  | case3 c d others hpair ih =>
    rw [List.cons_append, List.cons_append, singleBefore, singleBefore, if_pos hpair,
      if_pos hpair, ih h]
  | case4 c d others hpair ih =>
    rw [List.cons_append, List.cons_append, singleBefore, singleBefore, if_neg hpair,
      if_neg hpair, ← List.cons_append, ih h, Bool.or_assoc]

/-- A bracket without a partner at the end of a text stands before what follows the text. -/
theorem singleBefore_of_endsSingle {kind : Char → Bool} {text : Text} (h : endsSingle text = true)
    {c : Char} (hc : c ≠ '[') (hkind : kind c = true) (rest : Text) :
    singleBefore kind (text ++ c :: rest) = true := by
  fun_induction endsSingle text with
  | case1 => cases h
  | case2 d =>
    rw [List.singleton_append, singleBefore, if_neg (fun hpair => hc hpair.2)]
    simp [hkind, of_decide_eq_true h]
  | case3 d e others hpair ih =>
    rw [List.cons_append, List.cons_append, singleBefore, if_pos hpair, ih h]
  | case4 d e others hpair ih =>
    rw [List.cons_append, List.cons_append, singleBefore, if_neg hpair, ← List.cons_append,
      ih h, Bool.or_true]

/-- A text that ends in another character ends in no single bracket. -/
theorem endsSingle_concat {c : Char} (h : c ≠ '[') (text : Text) :
    endsSingle (text ++ [c]) = false := by
  fun_induction endsSingle text with
  | case1 => simpa [endsSingle] using h
  | case2 d => simp [endsSingle, h]
  | case3 d e others hpair ih =>
    rw [List.cons_append, List.cons_append, endsSingle, if_pos hpair, ih]
  | case4 d e others hpair ih =>
    rw [List.cons_append, List.cons_append, endsSingle, if_neg hpair, ← List.cons_append, ih]

/-- A text that is written in reverse and begins with another character ends in no single bracket. -/
theorem endsSingle_reverse_cons {c : Char} (h : c ≠ '[') (front inside : Text) :
    endsSingle (front ++ (c :: inside).reverse) = false := by
  rw [List.reverse_cons, ← List.append_assoc]
  exact endsSingle_concat h _

/-- A text without opening brackets has no pairs, and no bracket without a partner. -/
theorem plain_of_notMem {text : Text} (h : '[' ∉ text) :
    pairs text = 0 ∧ endsSingle text = false ∧ ∀ kind, singleBefore kind text = false := by
  induction text with
  | nil => exact ⟨rfl, rfl, fun _ => rfl⟩
  | cons c rest ih =>
    have hc : c ≠ '[' := fun heq => h (by simp [heq])
    obtain ⟨hnone, hend, hsingle⟩ := ih fun hmem => h (List.mem_cons_of_mem _ hmem)
    refine ⟨by rw [pairs_cons_of_ne hc, hnone], by rw [endsSingle_cons_of_ne hc, hend], ?_⟩
    intro kind
    rw [singleBefore_cons_of_ne kind hc, hsingle]

/-! ## The text of the open links -/

/-- The text written out so far for the open links, their opening brackets included. -/
def opened : List OpenLink → Text
  | [] => []
  | link :: outer => opened outer ++ link.before.reverse ++ ['[', '[']

/-- Links that stay open are written out in front of the text. -/
theorem restoreOpen_eq (text : Text) (links : List OpenLink) :
    restoreOpen text links = opened links ++ text := by
  induction links generalizing text with
  | nil => rfl
  | cons link outer ih => simp [restoreOpen, opened, ih, List.reverseAux_eq]

@[simp]
theorem before_see (link : OpenLink) (c : Char) : (link.see c).before = link.before := by
  unfold OpenLink.see
  split
  · rfl
  · split
    · rfl
    · split <;> rfl

@[simp]
theorem opened_seeInside (c : Char) (links : List OpenLink) :
    opened (seeInside c links) = opened links := by
  cases links with
  | nil => rfl
  | cons link outer => simp [seeInside, opened]

/-- At each open link, the brackets of the text before it all have partners. -/
def AllApart : List OpenLink → Prop
  | [] => True
  | link :: outer => endsSingle (opened outer ++ link.before.reverse) = false ∧ AllApart outer

/-- What is seen in the open links does not change whether the brackets before them have partners. -/
@[simp]
theorem allApart_seeInside (c : Char) (links : List OpenLink) :
    AllApart (seeInside c links) ↔ AllApart links := by
  cases links with
  | nil => rfl
  | cons link outer => simp [seeInside, AllApart]

/-! ## One pass

A link that goes takes its opening bracket along. What has to be excluded is that its place in the
text brings two other brackets together: `closed_replaces` says what it needs for that. Where two
brackets could come together is described by the characters that follow a single one, of which white
space has to be one, for it goes with a category. -/

section

variable {ε : Type}

/-- A pass that does what another one does, and notes the content of each link. -/
def noting (resolve : Text → Traced ε Action) (content : Text) : Traced Text Action :=
  ⟨(resolve content).value, [content]⟩

/-- The contents that a pass over a text asks about: those of the links it closes, with the links in
them as they are resolved already. -/
def asked (resolve : Text → Traced ε Action) (text : Text) : List Text :=
  (resolveOnce (noting resolve) text).trace

/-- A text in the place of a link brings no brackets together that the content did not: it has no
more pairs than the content, and none of its brackets waits for a partner at its end or before a
character of the kind. -/
structure Unjoining (kind : Char → Bool) (content text : Text) : Prop where
  pairs_le : pairs text ≤ pairs content
  ends : endsSingle text = false
  within : singleBefore kind text = false

/-- The content of a link is harmless if its replacement brings no brackets together, unless the link
itself has a single one before a character of the kind. -/
def Harmless (kind : Char → Bool) (resolve : Text → Traced ε Action) (content : Text) : Prop :=
  ∀ text, (resolve content).value = .replace text →
    singleBefore kind (content ++ [']']) = false → Unjoining kind content text

variable {kind : Char → Bool}

/-- A closed link and the white space before it, `gap`, become a text. -/
theorem closed_replaces {front gap content text rest : Text}
    (hfront : endsSingle front = false) (hgap : '[' ∉ gap)
    (htext : singleBefore kind (content ++ [']']) = false → Unjoining kind content text)
    (hsingle :
      singleBefore kind (front ++ gap ++ ['[', '['] ++ content ++ [']', ']'] ++ rest) = false) :
    endsSingle text = false ∧ singleBefore kind (front ++ text ++ rest) = false ∧
      pairs (front ++ text ++ rest)
        < pairs (front ++ gap ++ ['[', '['] ++ content ++ [']', ']'] ++ rest) := by
  have hclosing : ']' ≠ '[' := by decide
  have hends := (plain_of_notMem hgap).2.1
  have hopening : endsSingle ['[', '['] = false := rfl
  have hconcat := endsSingle_concat hclosing content
  -- the link and the gap end in a closing bracket, so they are counted by themselves
  have hsplit : front ++ gap ++ ['[', '['] ++ content ++ [']', ']'] ++ rest
      = front ++ (gap ++ (['[', '['] ++ ((content ++ [']']) ++ ']' :: rest))) := by simp
  rw [hsplit, singleBefore_append kind hfront, singleBefore_append kind hends,
    singleBefore_append kind hopening, singleBefore_append kind hconcat,
    singleBefore_cons_of_ne kind hclosing] at hsingle
  simp only [Bool.or_eq_false_iff] at hsingle
  obtain ⟨hbefore, -, -, hcontent, hbehind⟩ := hsingle
  obtain ⟨hle, hend, hwithin⟩ := htext hcontent
  have hlink : pairs (content ++ [']']) = pairs content := pairs_append_cons hclosing content []
  refine ⟨hend, ?_, ?_⟩
  · rw [List.append_assoc, singleBefore_append kind hfront, singleBefore_append kind hend, hbefore,
      hwithin, hbehind]
    rfl
  · rw [hsplit, List.append_assoc, pairs_append hfront, pairs_append hend, pairs_append hfront,
      pairs_append hends, pairs_append hopening, pairs_append hconcat,
      pairs_cons_of_ne hclosing, hlink, show pairs ['[', '['] = 1 from rfl]
    omega

/-- White space is no bracket. -/
theorem notMem_takeWhile_isWhiteSpace (text : Text) : '[' ∉ text.takeWhile isWhiteSpace := by
  intro hmem
  have hspace : isWhiteSpace '[' = true := List.mem_takeWhile_imp hmem
  exact absurd hspace (by decide)

/-- A text that is written in reverse ends in the white space at its front. -/
theorem reverse_eq_dropWhile_append (before : Text) :
    before.reverse
      = (before.dropWhile isWhiteSpace).reverse ++ (before.takeWhile isWhiteSpace).reverse := by
  rw [← List.reverse_append, List.takeWhile_append_dropWhile]

/-- The text before a dropped link does not end in a bracket without a partner, even without the
white space at its end, for such a bracket would have stood before white space. -/
theorem endsSingle_dropWhile (hspace : ∀ c, isWhiteSpace c = true → kind c = true)
    {front before rest : Text} (hbefore : endsSingle (front ++ before.reverse) = false)
    (hsingle : singleBefore kind (front ++ before.reverse ++ rest) = false) :
    endsSingle (front ++ (before.dropWhile isWhiteSpace).reverse) = false := by
  rw [reverse_eq_dropWhile_append] at hbefore hsingle
  cases hgap : (before.takeWhile isWhiteSpace).reverse with
  | nil => rwa [hgap, List.append_nil] at hbefore
  | cons w gap =>
    have hw : isWhiteSpace w = true :=
      List.mem_takeWhile_imp (l := before) (by rw [← List.mem_reverse, hgap]; simp)
    have hne : w ≠ '[' := fun heq => by rw [heq] at hw; exact absurd hw (by decide)
    by_contra hend
    have hwaits := singleBefore_of_endsSingle (Bool.eq_true_of_not_eq_false hend) hne
      (hspace w hw) (gap ++ rest)
    rw [hgap] at hsingle
    simp only [List.append_assoc, List.cons_append] at hsingle hwaits
    rw [hsingle] at hwaits
    cases hwaits

/-- What a stretch of the scan makes of the whole text: no bracket without a partner comes to stand
before a character of the kind, and the text is the same or holds fewer pairs. -/
def Lowers (kind : Char → Bool) (text result : Text) : Prop :=
  singleBefore kind result = false ∧ (result = text ∨ pairs result < pairs text)

/-- A stretch that lowers a text with fewer pairs lowers the text. -/
theorem Lowers.of_lt {text next result : Text} (h : Lowers kind next result)
    (hlt : pairs next < pairs text) : Lowers kind text result := by
  refine ⟨h.1, .inr ?_⟩
  rcases h.2 with rfl | hnext
  · exact hlt
  · exact hnext.trans hlt

variable {resolve : Text → Traced ε Action} (hspace : ∀ c, isWhiteSpace c = true → kind c = true)

include hspace

/-- From any place of the scan on, the whole text is lowered: what was written so far, with the open
links, and the rest. -/
theorem resolveFrom_lowers (inside : Text) (links : List OpenLink) (rest : Text)
    (hasked : ∀ content ∈ (resolveFrom (noting resolve) inside links rest).trace,
      Harmless kind resolve content)
    (hlinks : AllApart links)
    (hinside : endsSingle (opened links ++ inside.reverse) = false ∨ rest.head? ≠ some '[')
    (hsingle : singleBefore kind (opened links ++ inside.reverse ++ rest) = false) :
    Lowers kind (opened links ++ inside.reverse ++ rest)
      (resolveFrom resolve inside links rest).value := by
  induction inside, links, rest using resolveFrom.induct with
  | case1 inside links =>
    rw [resolveFrom, Traced.value_pure, restoreOpen_eq]
    rw [List.append_nil] at hsingle ⊢
    exact ⟨hsingle, .inl rfl⟩
  | case2 inside links rest ih =>
    rw [resolveFrom] at hasked
    -- the brackets read here are a pair, so none before them waits for a partner
    have hbefore := hinside.resolve_right (by simp)
    have ih := ih hasked ⟨hbefore, hlinks⟩
      (.inl (by rw [opened, List.reverse_nil, List.append_nil, endsSingle_append hbefore]; rfl))
      (by simpa [opened] using hsingle)
    simpa [resolveFrom, opened] using ih
  | case3 inside rest link outer hclosed ih =>
    obtain ⟨hbefore, houter⟩ := hlinks
    rw [resolveFrom, if_pos hclosed] at hasked
    obtain ⟨hthis, hothers⟩ := List.forall_mem_cons.mp hasked
    rw [resolveFrom, if_pos hclosed, Traced.value_bind]
    cases haction : (resolve inside.reverse).value with
    | replace text =>
      -- the label brings no bracket that waits, so the invariant holds after it
      obtain ⟨hend, hclean, hless⟩ := closed_replaces hbefore List.not_mem_nil (hthis text haction)
        (show singleBefore kind (opened outer ++ link.before.reverse ++ [] ++ ['[', '[']
          ++ inside.reverse ++ [']', ']'] ++ rest) = false by simpa [opened] using hsingle)
      have hshown : opened outer ++ (link.close inside (.replace text)).reverse
          = opened outer ++ link.before.reverse ++ text := by
        simp [OpenLink.close, List.reverseAux_eq]
      have ih := ih (.replace text) (by simpa [noting, haction] using hothers) houter
        (.inl (by rw [hshown, endsSingle_append hbefore, hend]))
        (by rw [hshown]; exact hclean)
      rw [hshown] at ih
      exact ih.of_lt (by simpa [opened] using hless)
    | drop =>
      -- no bracket before the white space waited for a partner, so none does now
      have hkept := endsSingle_dropWhile hspace hbefore
        (show singleBefore kind (opened outer ++ link.before.reverse
          ++ (['[', '['] ++ inside.reverse ++ [']', ']'] ++ rest)) = false by
            simpa [opened] using hsingle)
      have hsplit := reverse_eq_dropWhile_append link.before
      have hgap : '[' ∉ (link.before.takeWhile isWhiteSpace).reverse := by
        rw [List.mem_reverse]
        exact notMem_takeWhile_isWhiteSpace _
      obtain ⟨-, hclean, hless⟩ := closed_replaces hkept hgap
        (fun _ => (⟨Nat.zero_le _, rfl, rfl⟩ : Unjoining kind inside.reverse []))
        (show singleBefore kind (opened outer ++ (link.before.dropWhile isWhiteSpace).reverse
          ++ (link.before.takeWhile isWhiteSpace).reverse ++ ['[', '['] ++ inside.reverse
            ++ [']', ']'] ++ rest) = false by simpa [opened, hsplit] using hsingle)
      rw [List.append_nil] at hclean hless
      have ih := ih .drop (by simpa [noting, haction] using hothers) houter (.inl hkept) hclean
      exact ih.of_lt (by simpa [opened, hsplit, OpenLink.close] using hless)
    | keep =>
      have hkept : opened outer ++ (link.close inside .keep).reverse
          = opened (link :: outer) ++ inside.reverse ++ [']'] ++ [']'] := by
        simp [OpenLink.close, opened]
      have ih := ih .keep (by simpa [noting, haction] using hothers) houter
        (.inl (by rw [hkept]; exact endsSingle_concat (by decide) _))
        (by rw [hkept]; simpa using hsingle)
      rw [hkept] at ih
      simpa using ih
  | case4 inside rest link outer hopen ih =>
    rw [resolveFrom, if_neg hopen] at hasked
    have ih := ih hasked (by simpa [AllApart] using hlinks)
      (.inl (endsSingle_reverse_cons (by decide) _ _)) (by simpa [opened] using hsingle)
    rw [resolveFrom, if_neg hopen]
    simpa [opened] using ih
  | case5 inside rest ih =>
    rw [resolveFrom] at hasked
    have ih := ih hasked hlinks (.inl (endsSingle_reverse_cons (by decide) _ _))
      (by simpa using hsingle)
    rw [resolveFrom]
    simpa using ih
  | case6 inside links c rest hpair hclose ih =>
    have hstep : ∀ {ζ : Type} (resolve : Text → Traced ζ Action),
        resolveFrom resolve inside links (c :: rest)
          = resolveFrom resolve (c :: inside) (seeInside c links) rest := by
      intro ζ resolve
      rw [resolveFrom]
      · exact hpair
      · exact hclose
    have hnext : endsSingle (opened (seeInside c links) ++ (c :: inside).reverse) = false
        ∨ rest.head? ≠ some '[' := by
      by_cases hc : c = '['
      · -- a single bracket: another one after it would have opened a link
        right
        intro hhead
        obtain ⟨others, rfl⟩ := List.head?_eq_some_iff.mp hhead
        exact hpair others hc rfl
      · exact .inl (endsSingle_reverse_cons hc _ _)
    rw [hstep] at hasked
    have ih := ih hasked (by simpa using hlinks) hnext (by simpa using hsingle)
    rw [hstep]
    simpa using ih

/-- Each pass that changes a text takes an opening bracket away, if all links it asks about are
harmless. -/
theorem afterPass_lowers {text : Text} (hasked : ∀ content ∈ asked resolve text, Harmless kind resolve content)
    (hsingle : singleBefore kind text = false) : Lowers kind text (resolveOnce resolve text).value :=
  resolveFrom_lowers hspace [] [] text hasked trivial (.inl rfl) hsingle

end

/-! ## Runs of passes -/

section

variable {ε : Type}

/-- A text after one pass over its links. -/
def afterPass (resolve : Text → Traced ε Action) (text : Text) : Text :=
  (resolveOnce resolve text).value

/-- The budgeted loop is the iterate of its pass, for it stops early at fixed points only. -/
theorem value_resolvePasses (resolve : Text → Traced ε Action) (changed : ℕ → ε) (pass left : ℕ)
    (text : Text) :
    (resolvePasses resolve changed pass left text).value = (afterPass resolve)^[left] text := by
  induction left generalizing pass text with
  | zero => rfl
  | succ left ih =>
    rw [resolvePasses, Traced.value_bind, Function.iterate_succ_apply]
    by_cases hsame : (resolveOnce resolve text).value = text
    · have hfix : IsFixedPt (afterPass resolve) text := hsame
      rw [if_pos hsame, hfix.eq, (hfix.iterate left).eq]
      rfl
    · rw [if_neg hsame]
      by_cases hfirst : 0 < pass
      · rw [if_pos hfirst, Traced.value_bind, ih]
        rfl
      · rw [if_neg hfirst, ih]
        rfl

/-- The passes are one more than the text has pairs. -/
theorem value_resolveAll (resolve : Text → Traced ε Action) (changed : ℕ → ε) (text : Text) :
    (resolveAll resolve changed text).value = (afterPass resolve)^[pairs text + 1] text :=
  value_resolvePasses resolve changed 0 (pairs text + 1) text

variable {kind : Char → Bool} {resolve : Text → Traced ε Action}
  (hspace : ∀ c, isWhiteSpace c = true → kind c = true)

include hspace

/-- After each number of passes that ask about harmless links only, either one of them found nothing
to do or all of them took a bracket away. -/
theorem isFixedPt_or_pairs_le {text : Text} (hsingle : singleBefore kind text = false) {passes : ℕ}
    (hasked : ∀ done < passes, ∀ content ∈ asked resolve ((afterPass resolve)^[done] text),
      Harmless kind resolve content) :
    IsFixedPt (afterPass resolve) ((afterPass resolve)^[passes] text) ∨
      (singleBefore kind ((afterPass resolve)^[passes] text) = false ∧
        pairs ((afterPass resolve)^[passes] text) + passes ≤ pairs text) := by
  induction passes with
  | zero => exact .inr ⟨hsingle, le_rfl⟩
  | succ passes ih =>
    rw [Function.iterate_succ_apply']
    rcases ih fun done hdone => hasked done (by omega) with hfix | ⟨hclean, hless⟩
    · left
      rwa [hfix.eq]
    · obtain ⟨hnext, hsame | hlt⟩ :=
        afterPass_lowers hspace (hasked passes (Nat.lt_succ_self passes)) hclean
      · have hfix : IsFixedPt (afterPass resolve) ((afterPass resolve)^[passes] text) := hsame
        left
        rwa [hfix.eq]
      · exact .inr ⟨hnext, by rw [afterPass]; omega⟩

/-- The budget suffices for a text in which no bracket without a partner stands before a character of
the kind, if the passes ask about harmless links only. -/
theorem isFixedPt_of_harmless (changed : ℕ → ε) {text : Text} (hsingle : singleBefore kind text = false)
    (hasked : ∀ passes ≤ pairs text, ∀ content ∈ asked resolve ((afterPass resolve)^[passes] text),
      Harmless kind resolve content) :
    IsFixedPt (afterPass resolve) (resolveAll resolve changed text).value := by
  rw [value_resolveAll]
  rcases isFixedPt_or_pairs_le hspace hsingle fun done hdone =>
      hasked done (Nat.lt_succ_iff.mp hdone) with hfix | ⟨-, hle⟩
  · exact hfix
  · omega

end

end WikiText.Link
