import Mathlib.Data.List.Infix
import Mathlib.Logic.Function.Iterate
import WikiText.Table

/-!
# Tables and matching delimiters

A text is a sequence of delimiters and other characters (`marks`), and a sequence of marks has one
outline, which says how tables nest in it (`Outlined`). Removing tables writes a newline for every
outermost table of the outline and keeps everything else (`Outline.shown`).

The same may be done in one buffer, where each open delimiter is remembered by its place and a closing
one cuts the buffer back to the last of them. `Buffer.ofScan` is the buffer at a place of the scan that
keeps the texts before open delimiters apart. Each step in place leads from one such buffer to another,
so every remembered place is one of an opening delimiter, and later ones lie behind earlier ones.
-/

namespace WikiText.Table

/-! ## Delimiters -/

/-- What a text is made of. -/
inductive Mark where
  /-- An opening delimiter. -/
  | opening
  /-- A closing delimiter. -/
  | closing
  /-- A character that belongs to no delimiter. -/
  | plain (c : Char)
  deriving DecidableEq, Repr

/-- The text of a mark. -/
def Mark.text : Mark → Text
  | opening => ['{', '|']
  | closing => ['|', '}']
  | plain c => [c]

/-- The marks of a text. At each place an opening delimiter is looked for before a closing one. -/
def marks : Text → List Mark
  | [] => []
  | '{' :: '|' :: rest => .opening :: marks rest
  | '|' :: '}' :: rest => .closing :: marks rest
  | c :: rest => .plain c :: marks rest

/-- No character of a text is lost in its marks. -/
theorem flatMap_text_marks (text : Text) : (marks text).flatMap Mark.text = text := by
  fun_induction marks text with
  | case1 => rfl
  | case2 rest ih => rw [List.flatMap_cons, ih]; rfl
  | case3 rest ih => rw [List.flatMap_cons, ih]; rfl
  | case4 c rest _ _ ih => rw [List.flatMap_cons, ih]; rfl

/-! ## Outlines -/

/-- A text, or the inside of a table, by the tables that nest in it. -/
inductive Outline where
  /-- The end of the text or of the inside. -/
  | done
  /-- A mark that stays as it is. -/
  | mark (mark : Mark) (rest : Outline)
  /-- A table, by its inside. -/
  | table (inside rest : Outline)
  /-- An opening delimiter without a partner, and all that follows it. -/
  | unclosed (inside : Outline)
  deriving DecidableEq, Repr

namespace Outline

/-- The text that an outline is the outline of. -/
def text : Outline → Text
  | done => []
  | mark m rest => m.text ++ rest.text
  | table inside rest => Mark.opening.text ++ inside.text ++ Mark.closing.text ++ rest.text
  | unclosed inside => Mark.opening.text ++ inside.text

/-- The text of an outline with a newline for every outermost table. -/
def shown : Outline → Text
  | done => []
  | mark m rest => m.text ++ rest.shown
  | table _ rest => '\n' :: rest.shown
  | unclosed inside => Mark.opening.text ++ inside.shown

end Outline

/-- `Outlined isOpen marks outline left` says that a sequence of marks has an outline up to the end of
the table that it is in, where `isOpen` says whether it is in one, and `left` are the marks after the
closing delimiter of that table, if it has one.

An opening delimiter always opens a table. A closing one closes the innermost open table, and stays
where none is open. -/
inductive Outlined : Bool → List Mark → Outline → Option (List Mark) → Prop where
  /-- The text ends, and no table that is open has a partner. -/
  | done (isOpen : Bool) : Outlined isOpen [] .done none
  /-- The innermost open table is closed. -/
  | close (rest : List Mark) : Outlined true (.closing :: rest) .done (some rest)
  /-- A table opens and is closed, and the text goes on behind it. -/
  | table {isOpen : Bool} {text after : List Mark} {left : Option (List Mark)}
    {inside rest : Outline} (within : Outlined true text inside (some after))
    (behind : Outlined isOpen after rest left) :
    Outlined isOpen (.opening :: text) (.table inside rest) left
  /-- A table opens and is not closed. -/
  | unclosed {isOpen : Bool} {text : List Mark} {inside : Outline}
    (within : Outlined true text inside none) :
    Outlined isOpen (.opening :: text) (.unclosed inside) none
  /-- A closing delimiter where no table is open, or a character. -/
  | mark {isOpen : Bool} {mark : Mark} {text : List Mark} {left : Option (List Mark)}
    {rest : Outline} (opens : mark ≠ .opening) (closes : mark = .closing → isOpen = false)
    (behind : Outlined isOpen text rest left) :
    Outlined isOpen (mark :: text) (.mark mark rest) left

namespace Outlined

variable {isOpen : Bool} {text : List Mark} {outline : Outline} {left : Option (List Mark)}

/-- Nothing is left but what follows a closing delimiter. -/
theorem length_lt (h : Outlined isOpen text outline left) :
    ∀ after ∈ left, after.length < text.length := by
  induction h with
  | done => simp
  | close => simp
  | table within behind ihwithin ihbehind =>
    intro after hafter
    have hinner := ihwithin _ rfl
    have houter := ihbehind after hafter
    simp only [List.length_cons]
    omega
  | unclosed => simp
  | mark opens closes behind ih =>
    intro after hafter
    have hrest := ih after hafter
    simp only [List.length_cons]
    omega

/-- Outside of tables the outline is one of the whole text. -/
theorem left_eq_none (h : Outlined isOpen text outline left) (hopen : isOpen = false) :
    left = none := by
  induction h with
  | done => rfl
  | close => cases hopen
  | table within behind ihwithin ihbehind => exact ihbehind hopen
  | unclosed => rfl
  | mark opens closes behind ih => exact ih hopen

/-- An outline keeps all characters of its text, in order. -/
theorem text_eq (h : Outlined isOpen text outline left) :
    text.flatMap Mark.text
      = outline.text ++ (left.map fun after => (Mark.closing :: after).flatMap Mark.text).getD [] := by
  induction h with
  | done => rfl
  | close => rfl
  | table within behind ihwithin ihbehind =>
    rw [List.flatMap_cons, ihwithin, Option.map_some, Option.getD_some, List.flatMap_cons, ihbehind]
    simp [Outline.text]
  | unclosed within ih => simpa [Outline.text] using ih
  | mark opens closes behind ih => simpa [Outline.text] using ih

/-- A sequence of marks has an outline, wherever it begins. -/
theorem exists_outlined (isOpen : Bool) (text : List Mark) :
    ∃ outline left, Outlined isOpen text outline left := by
  induction hlength : text.length using Nat.strong_induction_on generalizing isOpen text with
  | _ length ih =>
    subst hlength
    cases text with
    | nil => exact ⟨_, _, .done isOpen⟩
    | cons first text =>
      have hrest := ih _ (Nat.lt_succ_self text.length)
      cases first with
      -- what is left behind an opening mark is read within, and behind the closing one as before
      | opening =>
        obtain ⟨inside, left, hwithin⟩ := hrest true text rfl
        cases left with
        | none => exact ⟨_, _, .unclosed hwithin⟩
        | some after =>
          have hafter := (hwithin.length_lt after rfl).trans (Nat.lt_succ_self _)
          obtain ⟨rest, left, hbehind⟩ := ih _ hafter isOpen after rfl
          exact ⟨_, _, .table hwithin hbehind⟩
      | closing =>
        cases isOpen with
        | true => exact ⟨_, _, .close text⟩
        | false =>
          obtain ⟨rest, left, hbehind⟩ := hrest false text rfl
          exact ⟨_, _, .mark (by simp) (fun _ => rfl) hbehind⟩
      | plain c =>
        obtain ⟨rest, left, hbehind⟩ := hrest isOpen text rfl
        exact ⟨_, _, .mark (by simp) (by simp) hbehind⟩

/-- A sequence of marks has no other outline. -/
theorem unique (h : Outlined isOpen text outline left) {outline' : Outline}
    {left' : Option (List Mark)} (h' : Outlined isOpen text outline' left') :
    outline = outline' ∧ left = left' := by
  induction h generalizing outline' left' with
  | done =>
    cases h'
    exact ⟨rfl, rfl⟩
  | close =>
    cases h' with
    | close => exact ⟨rfl, rfl⟩
    | mark _ closes' => cases closes' rfl
  | table within behind ihwithin ihbehind =>
    cases h' with
    | table within' behind' =>
      obtain ⟨rfl, hafter⟩ := ihwithin within'
      cases hafter
      obtain ⟨rfl, rfl⟩ := ihbehind behind'
      exact ⟨rfl, rfl⟩
    -- a table that is closed in one outline is not left open in the other
    | unclosed within' => cases (ihwithin within').2
    | mark opens' => exact absurd rfl opens'
  | unclosed within ih =>
    cases h' with
    | table within' behind' => cases (ih within').2
    | unclosed within' =>
      obtain ⟨rfl, -⟩ := ih within'
      exact ⟨rfl, rfl⟩
    | mark opens' => exact absurd rfl opens'
  | mark opens closes behind ih =>
    cases h' with
    | close => cases closes rfl
    | table => exact absurd rfl opens
    | unclosed => exact absurd rfl opens
    | mark opens' closes' behind' =>
      obtain ⟨rfl, rfl⟩ := ih behind'
      exact ⟨rfl, rfl⟩

end Outlined

/-! ## The scan and the outline -/

/-- The scan over the marks of a text. -/
def removeMarks (inside : Text) (outside : List Text) : List Mark → Text
  | [] => restoreOpen inside.reverse outside
  | .opening :: rest => removeMarks [] (inside :: outside) rest
  | .closing :: rest =>
    match outside with
    | before :: others => removeMarks ('\n' :: before) others rest
    | [] => removeMarks ('}' :: '|' :: inside) [] rest
  | .plain c :: rest => removeMarks (c :: inside) outside rest

/-- The scan of a text does what the scan of its marks does. -/
theorem removeFrom_eq (inside : Text) (outside : List Text) (text : Text) :
    removeFrom inside outside text = removeMarks inside outside (marks text) := by
  fun_induction removeFrom inside outside text with
  | case1 => rfl
  | case2 inside outside rest ih => exact ih
  | case3 inside rest before others ih => exact ih
  | case4 inside rest ih => exact ih
  | case5 inside outside c rest hopens hcloses ih =>
    rw [marks, removeMarks]
    · exact ih
    · exact hopens
    · exact hcloses

/-- How a scan goes on from the end of the inside of a table: it forgets the table and reads what is
left after it, or it is over. -/
def resume (outside : List Text) (left : Option (List Mark)) (content : Text) : Text :=
  match left, outside with
  | some after, before :: others => removeMarks ('\n' :: before) others after
  | _, outside => restoreOpen content outside

/-- From any place of a text on, the scan writes the outline of what it reads in the innermost table,
behind what it has read there, and then goes on. -/
theorem Outlined.removeMarks_eq {isOpen : Bool} {text : List Mark} {outline : Outline}
    {left : Option (List Mark)} (h : Outlined isOpen text outline left) (inside : Text)
    {outside : List Text} (hopen : isOpen = !outside.isEmpty) :
    removeMarks inside outside text = resume outside left (inside.reverse ++ outline.shown) := by
  induction h generalizing inside outside with
  | done => simp [removeMarks, resume, Outline.shown]
  | close rest =>
    cases outside with
    | nil => cases hopen
    | cons before others => rfl
  | table within behind ihwithin ihbehind =>
    rw [removeMarks, ihwithin [] rfl, resume, ihbehind _ hopen]
    simp [Outline.shown]
  -- the text ends in the table, which is written out with its opening mark
  | unclosed within ih =>
    rw [removeMarks, ih [] rfl, resume, resume, restoreOpen]
    · simp [Outline.shown, Mark.text, List.reverseAux_eq]
    · simp
    · simp
  | @mark _ mark _ _ _ opens closes behind ih =>
    cases mark with
    | opening => exact absurd rfl opens
    | closing =>
      obtain rfl : outside = [] := by simpa [closes rfl] using hopen
      rw [removeMarks, ih _ hopen]
      simp [Outline.shown, Mark.text]
    | plain c =>
      rw [removeMarks, ih _ hopen]
      simp [Outline.shown, Mark.text]

/-- What is left of a text is what its outline shows. -/
theorem Outlined.removeAll_eq {text : Text} {outline : Outline} {left : Option (List Mark)}
    (h : Outlined false (marks text) outline left) : removeAll text = outline.shown := by
  rw [removeAll, removeFrom_eq, h.removeMarks_eq [] rfl, h.left_eq_none rfl]
  rfl

/-- A text has an outline, and what is left of the text is what the outline shows. -/
theorem exists_removeAll_eq (text : Text) :
    ∃ outline : Outline, outline.text = text ∧ removeAll text = outline.shown := by
  obtain ⟨outline, left, houtline⟩ := Outlined.exists_outlined false (marks text)
  have htext := houtline.text_eq
  rw [houtline.left_eq_none rfl, flatMap_text_marks] at htext
  exact ⟨outline, (htext.trans (List.append_nil _)).symm, houtline.removeAll_eq⟩

/-! ## Tables removed in place -/

/-- A removal in place: what is written, the places of the open delimiters in it, innermost first, and
what is still to be read. -/
structure Buffer where
  /-- What is written. -/
  out : Text
  /-- How many characters stand before each open delimiter. -/
  starts : List ℕ
  /-- What is to be read. -/
  rest : Text
  deriving DecidableEq, Repr

namespace Buffer

/-- The removal before its first step. -/
def start (text : Text) : Buffer :=
  ⟨[], [], text⟩

/-- One step in place. At the end of the text there is nothing to do. -/
def step (buffer : Buffer) : Buffer :=
  match buffer.rest with
  | [] => buffer
  | '{' :: '|' :: rest => ⟨buffer.out ++ ['{', '|'], buffer.out.length :: buffer.starts, rest⟩
  | '|' :: '}' :: rest =>
    match buffer.starts with
    | place :: others => ⟨buffer.out.take place ++ ['\n'], others, rest⟩
    | [] => ⟨buffer.out ++ ['|'], [], '}' :: rest⟩
  | c :: rest => ⟨buffer.out ++ [c], buffer.starts, rest⟩

/-- The texts before open delimiters, with these delimiters. -/
def opened : List Text → Text
  | [] => []
  | before :: outside => opened outside ++ before.reverse ++ ['{', '|']

/-- The places of the open delimiters. -/
def startsOf : List Text → List ℕ
  | [] => []
  | before :: outside => (opened outside ++ before.reverse).length :: startsOf outside

/-- The buffer that holds what the scan keeps apart: `inside` is the text since the innermost open
delimiter, in reverse. -/
def ofScan (inside : Text) (outside : List Text) (rest : Text) : Buffer :=
  ⟨opened outside ++ inside.reverse, startsOf outside, rest⟩

/-- Tables that stay open are written out in front of the text. -/
theorem restoreOpen_eq (text : Text) (outside : List Text) :
    restoreOpen text outside = opened outside ++ text := by
  induction outside generalizing text with
  | nil => rfl
  | cons before outside ih => rw [restoreOpen, ih, opened]; simp [List.reverseAux_eq]

/-! ### Remembered places -/

/-- An open table starts within the text that is written out. -/
theorem lt_of_mem_startsOf {outside : List Text} {place : ℕ} (h : place ∈ startsOf outside) :
    place < (opened outside).length := by
  induction outside with
  | nil => cases h
  | cons before outside ih =>
    rw [opened, List.length_append, List.length_append]
    rcases List.mem_cons.mp h with rfl | h
    · simp
    · have hplace := ih h
      omega

/-- Of the open tables the innermost starts last. -/
theorem pairwise_startsOf (outside : List Text) : (startsOf outside).Pairwise (· > ·) := by
  induction outside with
  | nil => exact List.Pairwise.nil
  | cons before outside ih =>
    refine List.Pairwise.cons (fun place hplace => ?_) ih
    have hlt := lt_of_mem_startsOf hplace
    rw [List.length_append]
    omega

/-- At the start of every open table stands its opening mark. -/
theorem prefix_of_mem_startsOf {outside : List Text} {place : ℕ} (h : place ∈ startsOf outside)
    (text : Text) : ['{', '|'] <+: (opened outside ++ text).drop place := by
  induction outside generalizing text with
  | nil => cases h
  | cons before outside ih =>
    rcases List.mem_cons.mp h with rfl | h
    · rw [opened, List.append_assoc, List.drop_left]
      exact List.prefix_append _ _
    · rw [opened, List.append_assoc, List.append_assoc]
      exact ih h _

/-! ### A step and a run -/

/-- An opening mark opens a table. -/
theorem step_opening (inside : Text) (outside : List Text) (rest : Text) :
    (ofScan inside outside ('{' :: '|' :: rest)).step = ofScan [] (inside :: outside) rest := by
  simp [ofScan, step, opened, startsOf]

/-- The newline for a table is written where its opening delimiter stood. -/
theorem step_closing (inside before : Text) (others : List Text) (rest : Text) :
    (ofScan inside (before :: others) ('|' :: '}' :: rest)).step
      = ofScan ('\n' :: before) others rest := by
  have htake : (opened others ++ before.reverse ++ ['{', '|'] ++ inside.reverse).take
      (opened others ++ before.reverse).length = opened others ++ before.reverse := by
    rw [List.append_assoc, List.take_left]
  simp only [ofScan, step, opened, startsOf]
  rw [htake, List.reverse_cons, List.append_assoc]

/-- A closing mark outside of tables closes nothing. -/
theorem step_stray (inside rest : Text) :
    (ofScan inside [] ('|' :: '}' :: rest)).step = ofScan ('|' :: inside) [] ('}' :: rest) := by
  simp [ofScan, step, opened, startsOf]

/-- Any other character is written where it stands. -/
theorem step_char {c : Char} {rest : Text} (hopens : ∀ after, c = '{' → rest = '|' :: after → False)
    (hcloses : ∀ after, c = '|' → rest = '}' :: after → False) (inside : Text)
    (outside : List Text) :
    (ofScan inside outside (c :: rest)).step = ofScan (c :: inside) outside rest := by
  unfold step ofScan
  split
  · next heq => cases heq
  · next heq =>
    cases heq
    exact (hopens _ rfl rfl).elim
  · next heq =>
    cases heq
    exact (hcloses _ rfl rfl).elim
  · next heq =>
    cases heq
    simp

/-- A step in place leads from a place of the scan to another one. -/
theorem exists_step_ofScan (inside : Text) (outside : List Text) (text : Text) :
    ∃ inside' outside' rest, (ofScan inside outside text).step = ofScan inside' outside' rest := by
  fun_cases removeFrom inside outside text with
  | case1 => exact ⟨inside, outside, [], rfl⟩
  | case2 _ after => exact ⟨_, _, _, step_opening inside outside after⟩
  | case3 after before others => exact ⟨_, _, _, step_closing inside before others after⟩
  | case4 after => exact ⟨_, _, _, step_stray inside after⟩
  | case5 _ c after hopens hcloses =>
    exact ⟨_, _, _, step_char hopens hcloses inside outside⟩

/-- Every buffer of a removal in place is the buffer at a place of the scan. -/
theorem exists_iterate_step_eq (text : Text) (n : ℕ) :
    ∃ inside outside rest, step^[n] (start text) = ofScan inside outside rest := by
  induction n with
  | zero => exact ⟨[], [], text, rfl⟩
  | succ n ih =>
    obtain ⟨inside, outside, rest, hbuffer⟩ := ih
    rw [Function.iterate_succ_apply', hbuffer]
    exact exists_step_ofScan inside outside rest

/-- From any place of the scan on, the steps in place end with what the scan computes. -/
theorem exists_iterate_step_ofScan (inside : Text) (outside : List Text) (text : Text) :
    ∃ n starts, step^[n] (ofScan inside outside text)
      = ⟨removeFrom inside outside text, starts, []⟩ := by
  fun_induction removeFrom inside outside text with
  | case1 inside outside => exact ⟨0, startsOf outside, by rw [restoreOpen_eq]; rfl⟩
  | case2 inside outside rest ih =>
    obtain ⟨n, starts, hlast⟩ := ih
    exact ⟨n + 1, starts, by rw [Function.iterate_succ_apply, step_opening, hlast]⟩
  | case3 inside rest before others ih =>
    obtain ⟨n, starts, hlast⟩ := ih
    exact ⟨n + 1, starts, by rw [Function.iterate_succ_apply, step_closing, hlast]⟩
  | case4 inside rest ih =>
    -- a closing delimiter without a partner takes two steps, one for each character
    obtain ⟨n, starts, hlast⟩ := ih
    refine ⟨n + 2, starts, ?_⟩
    rw [Function.iterate_succ_apply, step_stray, Function.iterate_succ_apply,
      step_char (by simp) (by simp), hlast]
  | case5 inside outside c rest hopens hcloses ih =>
    obtain ⟨n, starts, hlast⟩ := ih
    exact ⟨n + 1, starts, by rw [Function.iterate_succ_apply, step_char hopens hcloses, hlast]⟩

end Buffer

/-! ## Removing tables -/

/-- **Tables are removed by matching their delimiters.** A text has one outline, which is an outline of
all its characters in order, and what is left of the text is what the outline shows: every outermost
table becomes a newline, and everything else stays, delimiters without a partner included.

The removal in place ends with the same text. The places that it remembers are those of opening
delimiters in its buffer, at any time, and each lies behind the ones remembered before it. -/
theorem removeAll_outline (text : Text) :
    (∃! outline, Outlined false (marks text) outline none) ∧
      (∀ outline, Outlined false (marks text) outline none →
        outline.text = text ∧ removeAll text = outline.shown) ∧
      (∃ n starts, Buffer.step^[n] (.start text) = ⟨removeAll text, starts, []⟩) ∧
      ∀ n, (Buffer.step^[n] (.start text)).starts.Pairwise (· > ·) ∧
        ∀ place ∈ (Buffer.step^[n] (.start text)).starts,
          ['{', '|'] <+: (Buffer.step^[n] (.start text)).out.drop place := by
  obtain ⟨outline, left, houtline⟩ := Outlined.exists_outlined false (marks text)
  obtain rfl := houtline.left_eq_none rfl
  refine ⟨⟨outline, houtline, fun other hother => (hother.unique houtline).1⟩, ?_,
    Buffer.exists_iterate_step_ofScan [] [] text, ?_⟩
  · intro other hother
    have htext := hother.text_eq
    rw [flatMap_text_marks] at htext
    exact ⟨by simpa using htext.symm, hother.removeAll_eq⟩
  · intro n
    obtain ⟨inside, outside, rest, hbuffer⟩ := Buffer.exists_iterate_step_eq text n
    rw [hbuffer]
    exact ⟨Buffer.pairwise_startsOf outside,
      fun place hplace => Buffer.prefix_of_mem_startsOf hplace inside.reverse⟩

/-- An opening delimiter without a partner around a table, behind a closing one without a partner. -/
theorem removeAll_outline_unclosed :
    Outlined false (marks "|\x7d\x7b|\x7b||\x7d\x7d".toList)
        (.mark .closing (.unclosed (.table .done (.mark (.plain '}') .done)))) none ∧
      removeAll "|\x7d\x7b|\x7b||\x7d\x7d".toList = "|\x7d\x7b|\n\x7d".toList := by
  have houtline : Outlined false (marks "|\x7d\x7b|\x7b||\x7d\x7d".toList)
      (.mark .closing (.unclosed (.table .done (.mark (.plain '}') .done)))) none :=
    .mark (by decide) (fun _ => rfl)
      (.unclosed (.table (.close _) (.mark (by decide) (by decide) (.done true))))
  exact ⟨houtline, ((removeAll_outline _).2.1 _ houtline).2⟩

end WikiText.Table
