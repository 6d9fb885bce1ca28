import Mathlib.Data.List.Chain
import WikiText.Proofs.Table

/-!
# Tables are removed once

The marks of a text are those of its characters one by one, unless two neighbours join to another
delimiter (`marks_flatMap_text`). The newline that is written for a table keeps what is before it apart
from what is after it, and all other neighbours stood side by side before. So the marks that stay when
tables are removed are the marks of the text that stays (`Outlined.isChain_kept`), and the outline of that
text is the old one with newlines in place of its tables (`Outlined.flattened`).
-/

namespace WikiText.Table

/-! ## Marks side by side -/

/-- Two characters that are a delimiter where they stand side by side. -/
def Joined (c d : Char) : Prop :=
  [c, d] = Mark.opening.text ∨ [c, d] = Mark.closing.text

/-- Two marks hold no delimiter but themselves where they stand side by side. -/
def Mark.Separate (first second : Mark) : Prop :=
  ∀ c d, first = .plain c → second.text.head? = some d → ¬ Joined c d

/-- Nothing comes together with a delimiter in front. -/
theorem Mark.separate_of_delimiter {first : Mark} (h : ∀ c, first ≠ .plain c) (second : Mark) :
    first.Separate second :=
  fun c _ hfirst => absurd hfirst (h c)

/-- Nothing comes together with a newline in front. -/
theorem Mark.newline_separate (second : Mark) : (Mark.plain '\n').Separate second := by
  rintro c d ⟨⟩ - (hopening | hclosing)
  · exact absurd (List.cons.inj hopening).1 (by decide)
  · exact absurd (List.cons.inj hclosing).1 (by decide)

/-- Nothing comes together with a newline behind it. -/
theorem Mark.separate_newline (first : Mark) : first.Separate (.plain '\n') := by
  rintro c d - ⟨⟩ (hopening | hclosing)
  · exact absurd (List.cons.inj (List.cons.inj hopening).2).1 (by decide)
  · exact absurd (List.cons.inj (List.cons.inj hclosing).2).1 (by decide)

/-- A text begins as the first of its marks does. -/
theorem head?_flatMap_text (list : List Mark) :
    (list.flatMap Mark.text).head? = list.head?.bind fun mark => mark.text.head? := by
  cases list with
  | nil => rfl
  | cons first rest => cases first <;> rfl

/-- A character that begins no delimiter is a mark of its own. -/
theorem marks_cons {c : Char} {rest : Text} (h : ∀ d ∈ rest.head?, ¬ Joined c d) :
    marks (c :: rest) = .plain c :: marks rest := by
  rw [marks]
  · rintro after rfl rfl
    exact h '|' rfl (.inl rfl)
  · rintro after rfl rfl
    exact h '}' rfl (.inr rfl)

/-- Marks that may stand side by side are found again in their text. -/
theorem marks_flatMap_text {list : List Mark} (h : list.IsChain Mark.Separate) :
    marks (list.flatMap Mark.text) = list := by
  induction list with
  | nil => rfl
  | cons first rest ih =>
    obtain ⟨hfirst, hrest⟩ := List.isChain_cons.mp h
    cases first with
    | opening => exact congrArg (Mark.opening :: ·) (ih hrest)
    | closing => exact congrArg (Mark.closing :: ·) (ih hrest)
    | plain c =>
      -- that marks are separate says no plain character makes a mark with the next
      have hplain : marks (c :: rest.flatMap Mark.text)
          = .plain c :: marks (rest.flatMap Mark.text) := by
        apply marks_cons
        intro d hd
        rw [head?_flatMap_text] at hd
        obtain ⟨second, hsecond, htext⟩ := Option.bind_eq_some_iff.mp hd
        exact hfirst second hsecond c d rfl htext
      exact hplain.trans (congrArg (Mark.plain c :: ·) (ih hrest))

/-- The marks of a text may stand side by side. -/
theorem isChain_marks (text : Text) : (marks text).IsChain Mark.Separate := by
  fun_induction marks text with
  | case1 => exact .nil
  | case2 rest ih =>
    exact List.isChain_cons.mpr ⟨fun second _ => Mark.separate_of_delimiter (by simp) second, ih⟩
  | case3 rest ih =>
    exact List.isChain_cons.mpr ⟨fun second _ => Mark.separate_of_delimiter (by simp) second, ih⟩
  | case4 c rest hopens hcloses ih =>
    refine List.isChain_cons.mpr ⟨fun second hsecond => ?_, ih⟩
    rintro _ d ⟨⟩ hd hjoined
    -- the next mark begins with the next character
    have hhead := head?_flatMap_text (marks rest)
    rw [flatMap_text_marks, hsecond, Option.bind_some, hd] at hhead
    obtain ⟨after, rfl⟩ := List.head?_eq_some_iff.mp hhead
    rcases hjoined with hopening | hclosing
    · cases hopening
      exact hopens after rfl rfl
    · cases hclosing
      exact hcloses after rfl rfl

/-! ## Outlines without tables -/

namespace Outline

/-- The marks that stay of an outline, with a newline for every outermost table. -/
def kept : Outline → List Mark
  | done => []
  | mark m rest => m :: rest.kept
  | table _ rest => .plain '\n' :: rest.kept
  | unclosed inside => .opening :: inside.kept

/-- An outline with a newline for every outermost table. -/
def flattened : Outline → Outline
  | done => done
  | mark m rest => mark m rest.flattened
  | table _ rest => mark (.plain '\n') rest.flattened
  | unclosed inside => unclosed inside.flattened

/-- There is no table in an outline. -/
def IsFlat : Outline → Prop
  | done => True
  | mark _ rest => rest.IsFlat
  | table _ _ => False
  | unclosed inside => inside.IsFlat

/-- The marks that are kept spell what is shown. -/
theorem flatMap_text_kept (outline : Outline) : outline.kept.flatMap Mark.text = outline.shown := by
  induction outline with
  | done => rfl
  | mark m rest ih => rw [kept, List.flatMap_cons, ih, shown]
  | table inside rest _ ih => rw [kept, List.flatMap_cons, ih]; rfl
  | unclosed inside ih => rw [kept, List.flatMap_cons, ih, shown]

/-- An outline without its tables is flat. -/
theorem isFlat_flattened (outline : Outline) : outline.flattened.IsFlat := by
  induction outline with
  | done => trivial
  | mark m rest ih => exact ih
  | table inside rest _ ih => exact ih
  | unclosed inside ih => exact ih

/-- Where there is no table, everything is shown. -/
theorem IsFlat.shown_eq {outline : Outline} (h : outline.IsFlat) : outline.shown = outline.text := by
  induction outline with
  | done => rfl
  | mark m rest ih => rw [shown, text, ih h]
  | table inside rest => exact h.elim
  | unclosed inside ih => rw [shown, text, ih h]

end Outline

namespace Outlined

variable {isOpen : Bool} {text : List Mark} {outline : Outline} {left : Option (List Mark)}

/-- What is left after a closing mark is a tail. -/
theorem suffix (h : Outlined isOpen text outline left) : ∀ after ∈ left, after <:+ text := by
  induction h with
  | done => simp
  | close rest => simp
  | table within behind ihwithin ihbehind =>
    intro after hafter
    exact (ihbehind after hafter).trans ((ihwithin _ rfl).trans (List.suffix_cons _ _))
  | unclosed => simp
  | mark opens closes behind ih =>
    intro after hafter
    exact (ih after hafter).trans (List.suffix_cons _ _)

/-- Behind any mark, the marks that stay may stand side by side if all marks may. -/
theorem isChain_cons_kept (h : Outlined isOpen text outline left) {before : Mark}
    (hchain : (before :: text).IsChain Mark.Separate) :
    (before :: outline.kept).IsChain Mark.Separate := by
  induction h generalizing before with
  | done => exact .singleton before
  | close => exact .singleton before
  | @table _ _ after _ _ _ within behind ihwithin ihbehind =>
    -- a newline stands before what follows the table
    have hafter : after.IsChain Mark.Separate :=
      hchain.suffix ((within.suffix after rfl).trans
        ((List.suffix_cons _ _).trans (List.suffix_cons _ _)))
    have hnewline : (Mark.plain '\n' :: after).IsChain Mark.Separate :=
      List.isChain_cons.mpr ⟨fun second _ => second.newline_separate, hafter⟩
    exact List.isChain_cons_cons.mpr ⟨before.separate_newline, ihbehind hnewline⟩
  | unclosed within ih =>
    obtain ⟨hbefore, hrest⟩ := List.isChain_cons_cons.mp hchain
    exact List.isChain_cons_cons.mpr ⟨hbefore, ih hrest⟩
  | mark opens closes behind ih =>
    obtain ⟨hbefore, hrest⟩ := List.isChain_cons_cons.mp hchain
    exact List.isChain_cons_cons.mpr ⟨hbefore, ih hrest⟩

/-- Marks that are apart are apart when tables between them are removed. -/
theorem isChain_kept (h : Outlined isOpen text outline left) (hchain : text.IsChain Mark.Separate) :
    outline.kept.IsChain Mark.Separate := by
  have hnewline : (Mark.plain '\n' :: text).IsChain Mark.Separate :=
    List.isChain_cons.mpr ⟨fun second _ => second.newline_separate, hchain⟩
  exact (h.isChain_cons_kept hnewline).tail

/-- The marks that stay of a whole text are outlined without tables: no closing delimiter stays behind
an opening one. -/
theorem flattened (h : Outlined isOpen text outline left) (hleft : left = none) :
    Outlined isOpen outline.kept outline.flattened none := by
  induction h with
  | done => exact .done _
  | close => cases hleft
  | table within behind ihwithin ihbehind =>
    exact .mark (by decide) (fun heq => absurd heq (by decide)) (ihbehind hleft)
  | unclosed within ih => exact .unclosed (ih rfl)
  | mark opens closes behind ih => exact .mark opens closes (ih hleft)

end Outlined

/-! ## Texts without tables -/

/-- A text whose outline has no table is left as it is. -/
theorem removeAll_of_isFlat {text : Text} {outline : Outline}
    (h : Outlined false (marks text) outline none) (hflat : outline.IsFlat) :
    removeAll text = text := by
  have htext := h.text_eq
  rw [flatMap_text_marks] at htext
  rw [h.removeAll_eq, hflat.shown_eq]
  exact (htext.trans (List.append_nil _)).symm

/-- **Tables are removed in one pass.** In what is left of a text no opening delimiter has a partner, so
that to remove tables once more changes nothing. -/
theorem removeAll_removeAll (text : Text) :
    (∃ outline, Outlined false (marks (removeAll text)) outline none ∧ outline.IsFlat) ∧
      removeAll (removeAll text) = removeAll text := by
  obtain ⟨outline, left, houtline⟩ := Outlined.exists_outlined false (marks text)
  have hkept := marks_flatMap_text (houtline.isChain_kept (isChain_marks text))
  rw [outline.flatMap_text_kept, ← houtline.removeAll_eq] at hkept
  have hflattened := houtline.flattened (houtline.left_eq_none rfl)
  rw [← hkept] at hflattened
  exact ⟨⟨_, hflattened, outline.isFlat_flattened⟩,
    removeAll_of_isFlat hflattened outline.isFlat_flattened⟩

/-- A brace before a table and a bar behind it do not join. -/
example : removeAll "\x7b\x7b|\x7b||\x7d|\x7d|".toList = "\x7b\n|".toList := by
  decide

end WikiText.Table
