import WikiText.Link.Reading
import WikiText.Proofs.Link.Passes
import WikiText.Proofs.Text.Trim
import WikiText.Proofs.Trace

/-!
# The outline of a text

One pass over links keeps a stack of open links. What it computes needs no stack to be said: a text
has one outline, which says how links nest in it (`Outlined`), and the pass resolves the outline from
the inside (`Outline.resolve`). The scan is followed along the derivation of an outline, for any text
that is read already and any links that are open: the innermost of them is `Tracked` by the characters
that stand directly in it.
-/

namespace WikiText.Link

open Unicode (isWhiteSpace)

variable {ε : Type}

/-! ## Outlines -/

/-- A text, or the content of a link, by the links that nest in it. -/
inductive Outline where
  /-- The end of the text or of the content. -/
  | done
  /-- A character that opens and closes no link. -/
  | char (c : Char) (rest : Outline)
  /-- A link, by its content. -/
  | link (content rest : Outline)
  /-- The opening brackets of a link that is never closed, and all that follows them. -/
  | unclosed (content : Outline)
  deriving DecidableEq, Repr

namespace Outline

/-- The text that an outline is the outline of. -/
def text : Outline → Text
  | done => []
  | char c rest => c :: rest.text
  | link content rest => '[' :: '[' :: (content.text ++ ']' :: ']' :: rest.text)
  | unclosed content => '[' :: '[' :: content.text

end Outline

/-- What stands before a link and the link itself, by its content, once it is known what becomes of
it. -/
def Action.edit (before content : Text) : Action → Text
  | .replace text => before ++ text
  | .drop => Text.trimEnd before
  | .keep => before ++ '[' :: '[' :: (content ++ [']', ']'])

/-- Resolves the links of an outline behind a text, from the left, and each link after the links in
its content. -/
def Outline.resolve (resolve : Text → Traced ε Action) (before : Text) : Outline → Traced ε Text
  | done => pure before
  | char c rest => rest.resolve resolve (before ++ [c])
  | link content rest => do
    let inner ← content.resolve resolve []
    let action ← resolve inner
    rest.resolve resolve (action.edit before inner)
  | unclosed content => do
    let inner ← content.resolve resolve []
    return before ++ '[' :: '[' :: inner

/-- The number of single brackets that are open in a link after the characters that stand directly in
it: from the first bar on, each opening one counts, and each closing one takes one away. -/
def openBrackets (direct : Text) : ℕ :=
  (direct.dropWhile (· ≠ '|')).foldl depthAfter 0

/-- Whether two closing brackets close a link, by the characters that stand directly in it so far;
outside of links they close none. -/
def Closable (direct : Option Text) : Prop :=
  ∃ own, direct = some own ∧ openBrackets own = 0

/-- `Outlined direct text outline left` says that a text has an outline up to the end of the link that
it is in, where `direct` are the characters that stood directly in that link before, and `left` is the
text after its closing brackets, if it is closed. Outside of links there are no such characters.

Two opening brackets always open a link. Two closing ones close the innermost open link if and only if
no single bracket is open in it. -/
inductive Outlined : Option Text → Text → Outline → Option Text → Prop where
  /-- The text ends, and with it all links that are open. -/
  | done (direct : Option Text) : Outlined direct [] .done none
  /-- The link is closed. -/
  | close {direct : Option Text} (rest : Text) (closable : Closable direct) :
    Outlined direct (']' :: ']' :: rest) .done (some rest)
  /-- A link opens and is closed, and the text goes on behind it. -/
  | link {direct left : Option Text} {text after : Text} {content rest : Outline}
    (inside : Outlined (some []) text content (some after))
    (behind : Outlined direct after rest left) :
    Outlined direct ('[' :: '[' :: text) (.link content rest) left
  /-- A link opens and is not closed. -/
  | unclosed {direct : Option Text} {text : Text} {content : Outline}
    (inside : Outlined (some []) text content none) :
    Outlined direct ('[' :: '[' :: text) (.unclosed content) none
  /-- Any other character stands directly in the link. -/
  | char {direct left : Option Text} {c : Char} {text : Text} {rest : Outline}
    (opens : ¬ ['[', '['] <+: c :: text)
    (closes : [']', ']'] <+: c :: text → ¬ Closable direct)
    (behind : Outlined (direct.map (· ++ [c])) text rest left) :
    Outlined direct (c :: text) (.char c rest) left

/-- A text that begins with a pair has the second character behind the first. -/
theorem exists_of_pair_prefix {c d e : Char} {text : Text} (h : [c, d] <+: e :: text) :
    e = c ∧ ∃ rest, text = d :: rest := by
  obtain ⟨rest, hrest⟩ := h
  obtain ⟨rfl, rfl⟩ := List.cons.inj hrest
  exact ⟨rfl, rest, rfl⟩

namespace Outlined

variable {direct left : Option Text} {text : Text} {outline : Outline}

/-- Outside of links closing brackets close nothing. -/
theorem not_closable_none : ¬ Closable none := by
  rintro ⟨own, hown, -⟩
  cases hown

/-- Nothing is left but what follows the closing brackets of a link. -/
theorem length_lt (h : Outlined direct text outline left) : ∀ after ∈ left, after.length < text.length := by
  induction h with
  | done => simp
  | close rest =>
    intro after hafter
    cases hafter
    simp only [List.length_cons]
    omega
  | link inside behind ihinside ihbehind =>
    intro after hafter
    have hinner := ihinside _ rfl
    have houter := ihbehind after hafter
    simp only [List.length_cons]
    omega
  | unclosed => simp
  | char opens closes behind ih =>
    intro after hafter
    have hrest := ih after hafter
    simp only [List.length_cons]
    omega

/-- Outside of links the outline is one of the whole text. -/
theorem left_eq_none (h : Outlined direct text outline left) (hdirect : direct = none) :
    left = none := by
  induction h with
  | done => rfl
  | close rest closable =>
    subst hdirect
    exact absurd closable not_closable_none
  | link inside behind ihinside ihbehind => exact ihbehind hdirect
  | unclosed => rfl
  | char opens closes behind ih =>
    subst hdirect
    exact ih rfl

/-- An outline keeps all characters of its text, in order. -/
theorem text_eq (h : Outlined direct text outline left) :
    text = outline.text ++ (left.map fun after => ']' :: ']' :: after).getD [] := by
  induction h with
  | done => rfl
  | close rest => rfl
  | link inside behind ihinside ihbehind => simp [Outline.text, ihinside, ihbehind]
  | unclosed inside ih => simpa [Outline.text] using ih
  | char opens closes behind ih => simpa [Outline.text] using ih

/-- A text has an outline, wherever it begins. -/
theorem exists_outlined (direct : Option Text) (text : Text) :
    ∃ outline left, Outlined direct text outline left := by
  induction hlength : text.length using Nat.strong_induction_on generalizing direct text with
  | _ length ih =>
    subst hlength
    cases text with
    | nil => exact ⟨_, _, .done direct⟩
    | cons c text =>
      -- on the length, since a link is read twice over: its inside, then what follows it
      by_cases hopens : ['[', '['] <+: c :: text
      · obtain ⟨rfl, rest, rfl⟩ := exists_of_pair_prefix hopens
        have hshorter : rest.length < ('[' :: '[' :: rest).length := by
          simp only [List.length_cons]
          omega
        obtain ⟨content, left, hinside⟩ := ih _ hshorter (some []) rest rfl
        cases left with
        | none => exact ⟨_, _, .unclosed hinside⟩
        | some after =>
          have hafter := (hinside.length_lt after rfl).trans hshorter
          obtain ⟨others, left, hbehind⟩ := ih _ hafter direct after rfl
          exact ⟨_, _, .link hinside hbehind⟩
      · by_cases hcloses : [']', ']'] <+: c :: text ∧ Closable direct
        · obtain ⟨rfl, rest, rfl⟩ := exists_of_pair_prefix hcloses.1
          exact ⟨_, _, .close rest hcloses.2⟩
        · obtain ⟨others, left, hbehind⟩ := ih _ (Nat.lt_succ_self _) (direct.map (· ++ [c])) text rfl
          exact ⟨_, _, .char hopens (fun hpair hclosable => hcloses ⟨hpair, hclosable⟩) hbehind⟩

/-- A text has no other outline. -/
theorem unique (h : Outlined direct text outline left) {outline' : Outline} {left' : Option Text}
    (h' : Outlined direct text outline' left') : outline = outline' ∧ left = left' := by
  induction h generalizing outline' left' with
  | done =>
    cases h'
    exact ⟨rfl, rfl⟩
  | close rest closable =>
    cases h' with
    | close => exact ⟨rfl, rfl⟩
    | char _ closes' => exact absurd closable (closes' (by simp))
  | link inside behind ihinside ihbehind =>
    cases h' with
    | link inside' behind' =>
      obtain ⟨rfl, hafter⟩ := ihinside inside'
      cases hafter
      obtain ⟨rfl, rfl⟩ := ihbehind behind'
      exact ⟨rfl, rfl⟩
    -- a link that is closed in one outline is not left open in the other
    | unclosed inside' => cases (ihinside inside').2
    | char opens' => exact absurd (by simp) opens'
  | unclosed inside ih =>
    cases h' with
    | link inside' behind' => cases (ih inside').2
    | unclosed inside' =>
      obtain ⟨rfl, -⟩ := ih inside'
      exact ⟨rfl, rfl⟩
    | char opens' => exact absurd (by simp) opens'
  | char opens closes behind ih =>
    cases h' with
    | close rest closable' => exact absurd closable' (closes (by simp))
    | link => exact absurd (by simp) opens
    | unclosed => exact absurd (by simp) opens
    | char opens' closes' behind' =>
      obtain ⟨rfl, rfl⟩ := ih behind'
      exact ⟨rfl, rfl⟩

end Outlined

/-! ## The scan and the innermost link

The scan counts the brackets of a link as it goes, and counts none before the first bar; the outline
counts those of the characters behind that bar. -/

/-- Without a bar no bracket counts. -/
theorem openBrackets_of_notMem {direct : Text} (h : '|' ∉ direct) : openBrackets direct = 0 := by
  have hdrop : direct.dropWhile (· ≠ '|') = [] := by
    rw [List.dropWhile_eq_nil_iff]
    intro c hc
    simpa using fun heq : c = '|' => h (heq ▸ hc)
  rw [openBrackets, hdrop]
  rfl

/-- Behind a bar one more character changes the number as it says. -/
theorem openBrackets_concat_of_mem {direct : Text} (h : '|' ∈ direct) (c : Char) :
    openBrackets (direct ++ [c]) = depthAfter (openBrackets direct) c := by
  have hdrop : direct.dropWhile (· ≠ '|') ≠ [] := by
    rw [Ne, List.dropWhile_eq_nil_iff]
    intro hall
    simpa using hall '|' h
  rw [openBrackets, openBrackets, List.dropWhile_append, if_neg (by rwa [List.isEmpty_iff]),
    List.foldl_append]
  rfl

/-- Up to the first bar, which is included, no bracket is open. -/
theorem openBrackets_concat_of_notMem {direct : Text} (h : '|' ∉ direct) (c : Char) :
    openBrackets (direct ++ [c]) = 0 := by
  by_cases hc : c = '|'
  · subst hc
    have hdrop : direct.dropWhile (· ≠ '|') = [] := by
      rw [List.dropWhile_eq_nil_iff]
      intro d hd
      simpa using fun heq : d = '|' => h (heq ▸ hd)
    rw [openBrackets, List.dropWhile_append, hdrop]
    rfl
  · exact openBrackets_of_notMem (by simp [h, Ne.symm hc])

/-- A link as the scan keeps it, by the characters that stand directly in it so far. -/
structure OpenLink.Follows (link : OpenLink) (direct : Text) : Prop where
  brackets : link.brackets = openBrackets direct
  piped : link.piped = true ↔ '|' ∈ direct

theorem OpenLink.follows_nil (before : Text) : OpenLink.Follows ⟨before, 0, false⟩ [] where
  brackets := rfl
  piped := by simp

/-- A link that sees a character has one more. -/
theorem OpenLink.Follows.see {link : OpenLink} {direct : Text} (h : link.Follows direct) (c : Char) :
    (link.see c).Follows (direct ++ [c]) := by
  obtain ⟨hbrackets, hpiped⟩ := h
  by_cases hbar : '|' ∈ direct
  · have hpiped := hpiped.mpr hbar
    have hcount := openBrackets_concat_of_mem hbar c
    rw [← hbrackets] at hcount
    constructor
    · rw [hcount]
      unfold OpenLink.see depthAfter
      grind
    · unfold OpenLink.see
      grind
  · -- no bracket counts yet, so that a bar is the first one wherever it stands
    have hpiped : link.piped = false := by simpa [hbar] using hpiped
    have hzero : link.brackets = 0 := by rw [hbrackets, openBrackets_of_notMem hbar]
    constructor
    · rw [openBrackets_concat_of_notMem hbar]
      unfold OpenLink.see
      grind
    · unfold OpenLink.see
      grind

/-- The innermost of the links that the scan keeps is the one that a text is in. -/
def Tracked : Option Text → List OpenLink → Prop
  | none, links => links = []
  | some direct, links => ∃ link outer, links = link :: outer ∧ link.Follows direct

/-- The innermost link sees the character. -/
theorem Tracked.seeInside {direct : Option Text} {links : List OpenLink} (h : Tracked direct links)
    (c : Char) : Tracked (direct.map (· ++ [c])) (seeInside c links) := by
  cases direct with
  | none =>
    rw [show links = [] from h]
    rfl
  | some direct =>
    obtain ⟨link, outer, rfl, hfollows⟩ := h
    exact ⟨link.see c, outer, rfl, hfollows.see c⟩

/-- Closing brackets close a link exactly if no bracket is open in the innermost one. -/
theorem Tracked.closable_iff {direct : Option Text} {links : List OpenLink}
    (h : Tracked direct links) :
    Closable direct ↔ ∃ link outer, links = link :: outer ∧ link.brackets = 0 := by
  cases direct with
  | none =>
    rw [show links = [] from h]
    simp [Closable]
  | some direct =>
    obtain ⟨link, outer, rfl, hfollows⟩ := h
    simp [Closable, hfollows.brackets]

/-! ## The scan and the outline -/

/-- A character that neither opens nor closes a link is read by itself. -/
theorem resolveFrom_char (resolve : Text → Traced ε Action) {c : Char} {text : Text}
    (hopens : ¬ ['[', '['] <+: c :: text) (inside : Text) {links : List OpenLink}
    (hcloses : [']', ']'] <+: c :: text → ¬ ∃ link outer, links = link :: outer ∧ link.brackets = 0) :
    resolveFrom resolve inside links (c :: text)
      = resolveFrom resolve (c :: inside) (seeInside c links) text := by
  by_cases hpair : [']', ']'] <+: c :: text
  · have hclosable := hcloses hpair
    obtain ⟨rfl, rest, rfl⟩ := exists_of_pair_prefix hpair
    cases links with
    | nil =>
      rw [resolveFrom]
      rfl
    | cons link outer =>
      have hbrackets : link.brackets ≠ 0 := fun hzero => hclosable ⟨link, outer, rfl, hzero⟩
      rw [resolveFrom, if_neg hbrackets]
      rfl
  · rw [resolveFrom]
    · rintro rest rfl rfl
      exact hopens (by simp)
    · rintro rest rfl rfl
      exact hpair (by simp)

/-- Closing a link edits its content behind the text before it. -/
theorem reverse_close (link : OpenLink) (content : Text) (action : Action) :
    (link.close content.reverse action).reverse = action.edit link.before.reverse content := by
  cases action with
  | replace text => simp [OpenLink.close, Action.edit, List.reverseAux_eq]
  | drop =>
    rw [OpenLink.close, Action.edit, Text.trimEnd, Text.dropWhileEnd_eq_rdropWhile, List.rdropWhile,
      List.reverse_reverse]
  | keep => simp [OpenLink.close, Action.edit]

/-- How a scan goes on from the end of a content: it closes the innermost link and reads what is left
after it, or it is over. -/
def resume (resolve : Text → Traced ε Action) (links : List OpenLink) (left : Option Text)
    (content : Text) : Traced ε Text :=
  match left, links with
  | some after, link :: outer => do
    let action ← resolve content
    resolveFrom resolve (link.close content.reverse action) outer after
  | _, links => pure (opened links ++ content)

/-- How a scan goes on does not depend on what the innermost link has seen. -/
theorem resume_seeInside (resolve : Text → Traced ε Action) (c : Char) (links : List OpenLink)
    (left : Option Text) (content : Text) :
    resume resolve (seeInside c links) left content = resume resolve links left content := by
  cases left with
  | none =>
    show pure (opened (seeInside c links) ++ content) = pure (opened links ++ content)
    rw [opened_seeInside]
  | some after =>
    cases links with
    | nil => rfl
    | cons link outer =>
      have hclose : ∀ action, (link.see c).close content.reverse action
          = link.close content.reverse action := by
        intro action
        cases action <;> simp [OpenLink.close]
      simp only [seeInside, resume, hclose]

/-- From any place of a text the scan resolves the outline of what it reads in the innermost link,
behind what it has read there, and then goes on. -/
theorem Outlined.resolveFrom_eq {direct left : Option Text} {text : Text} {outline : Outline}
    (h : Outlined direct text outline left) (resolve : Text → Traced ε Action) (inside : Text)
    {links : List OpenLink} (hlinks : Tracked direct links) :
    resolveFrom resolve inside links text
      = outline.resolve resolve inside.reverse >>= resume resolve links left := by
  induction h generalizing inside links with
  | done =>
    rw [resolveFrom, restoreOpen_eq, Outline.resolve, pure_bind]
    rfl
  | close rest closable =>
    obtain ⟨link, outer, rfl, hbrackets⟩ := hlinks.closable_iff.mp closable
    rw [resolveFrom, if_pos hbrackets, Outline.resolve, pure_bind, resume, List.reverse_reverse]
  | link inside' behind ihinside ihbehind =>
    have hopened : Tracked (some []) (⟨inside, 0, false⟩ :: links) :=
      ⟨_, links, rfl, OpenLink.follows_nil inside⟩
    rw [resolveFrom, ihinside [] hopened, Outline.resolve, List.reverse_nil, bind_assoc]
    congr
    funext inner
    rw [resume, bind_assoc]
    congr
    funext action
    rw [ihbehind _ hlinks, reverse_close]
  | unclosed inside' ih =>
    have hopened : Tracked (some []) (⟨inside, 0, false⟩ :: links) :=
      ⟨_, links, rfl, OpenLink.follows_nil inside⟩
    rw [resolveFrom, ih [] hopened, Outline.resolve, List.reverse_nil, bind_assoc]
    congr
    funext inner
    rw [pure_bind]
    show pure (opened (⟨inside, 0, false⟩ :: links) ++ inner) = pure (opened links ++ _)
    simp [opened]
  | char opens closes behind ih =>
    -- the character is seen by the innermost link, but that is of no account once the link closes
    rw [resolveFrom_char resolve opens inside fun hpair =>
      mt hlinks.closable_iff.mpr (closes hpair)]
    rw [ih _ (hlinks.seeInside _), Outline.resolve, List.reverse_cons]
    congr 1
    funext content
    exact resume_seeInside resolve _ links _ content

/-- A pass resolves the outline of the text. -/
theorem Outlined.resolveOnce_eq {text : Text} {outline : Outline} {left : Option Text}
    (h : Outlined none text outline left) (resolve : Text → Traced ε Action) :
    resolveOnce resolve text = outline.resolve resolve [] := by
  rw [resolveOnce, h.resolveFrom_eq resolve [] rfl, h.left_eq_none rfl]
  exact bind_pure _

/-- A text has an outline, and one pass resolves it. -/
theorem exists_resolveOnce_eq (resolve : Text → Traced ε Action) (text : Text) :
    ∃ outline : Outline, outline.text = text ∧
      resolveOnce resolve text = outline.resolve resolve [] := by
  obtain ⟨outline, left, houtline⟩ := Outlined.exists_outlined none text
  have htext := houtline.text_eq
  rw [houtline.left_eq_none rfl] at htext
  exact ⟨outline, (htext.trans (List.append_nil _)).symm, houtline.resolveOnce_eq resolve⟩

/-- Links that all stay give the text back. -/
theorem Outline.value_resolve_keep (events : Text → List ε) (outline : Outline) (before : Text) :
    (outline.resolve (fun content => ⟨.keep, events content⟩) before).value
      = before ++ outline.text := by
  induction outline generalizing before with
  | done => simp [Outline.resolve, Outline.text]
  | char c rest ih => simp [Outline.resolve, Outline.text, ih]
  | link content rest ihcontent ihrest =>
    simp [Outline.resolve, Outline.text, Action.edit, ihcontent, ihrest]
  | unclosed content ih => simp [Outline.resolve, Outline.text, ih]

end WikiText.Link
