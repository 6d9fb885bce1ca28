import Mathlib.Data.List.Infix
import Mathlib.Logic.Function.Iterate
import WikiText.Proofs.Scanner
import WikiText.Proofs.Text.Trim
import WikiText.Text.Pattern

/-!
# Constructs that occur, and text around a construct

A pass over a text leaves it alone when the construct that it looks for does not occur
(`replaceWith_of_not_occurs`), and a construct does not occur when its scanner refuses after each of
its opening characters (`occurs_eq_false_iff`).

A cut text is taken apart from the left (`pieces_cases`), and what a removal leaves are the characters
outside of all constructs (`remove_eq`). Text around the constructs of another text stays outside of them if
it has no opening character and the scanner is blind to it (`replaceWith_between`). Passes that take
something away whenever they find a construct come to an end (`exists_last_pass`).
-/

namespace WikiText

/-- What a pass writes for a piece. -/
def Piece.write {α : Type} (replacement : α → Text) : Piece α → Text
  | plain c => [c]
  | found value => replacement value

/-- Plain pieces are written as they are. -/
theorem flatMap_write_plain {α : Type} (replacement : α → Text) (text : Text) :
    (text.map Piece.plain).flatMap (Piece.write replacement) = text := by
  rw [List.flatMap_map]
  exact List.flatMap_singleton' text

namespace Pattern

variable {α ε : Type} {pattern : Pattern α} {text : Text}

/-! ## Occurrence -/

/-- Whether the construct of a pattern begins at some place of a text. -/
def occurs (pattern : Pattern α) : Text → Bool
  | [] => false
  | c :: tail =>
    (c = pattern.opening && (pattern.body.run tail).isSome) || pattern.occurs tail

/-- A construct does not occur when its scanner refuses behind each opening character. -/
theorem occurs_eq_false_iff :
    pattern.occurs text = false ↔
      ∀ tail, pattern.opening :: tail <:+ text → pattern.body.run tail = none := by
  induction text with
  | nil => simp [occurs]
  | cons c rest ih =>
    rw [occurs, Bool.or_eq_false_iff, ih]
    constructor
    · rintro ⟨hhere, hlater⟩ tail hsuffix
      rcases List.suffix_cons_iff.mp hsuffix with heq | hsuffix
      · obtain ⟨rfl, rfl⟩ := List.cons.inj heq
        simpa using hhere
      · exact hlater tail hsuffix
    · intro hall
      refine ⟨?_, fun tail hsuffix => hall tail (hsuffix.trans (List.suffix_cons c rest))⟩
      by_cases hc : c = pattern.opening
      · have hnone := hall rest (hc ▸ List.suffix_refl _)
        simp [hnone]
      · simp [hc]

/-- A construct occurs where its scanner accepts behind an opening character. -/
theorem occurs_iff :
    pattern.occurs text = true ↔
      ∃ tail, pattern.opening :: tail <:+ text ∧ pattern.body.run tail ≠ none := by
  rw [← Bool.not_eq_false, occurs_eq_false_iff]
  simp only [not_forall, exists_prop, ne_eq]

/-- A pattern does not occur where its first character is missing. -/
theorem not_occurs_of_notMem (h : pattern.opening ∉ text) : pattern.occurs text = false := by
  rw [occurs_eq_false_iff]
  intro tail hsuffix
  exact absurd (hsuffix.subset List.mem_cons_self) h

/-- A pattern that does not occur in a text does not occur in its tails. -/
theorem not_occurs_of_suffix {part : Text} (h : pattern.occurs text = false)
    (hsuffix : part <:+ text) : pattern.occurs part = false := by
  rw [occurs_eq_false_iff] at h ⊢
  exact fun tail htail => h tail (htail.trans hsuffix)

/-- An opening character that the scanner refuses is plain. -/
theorem occurs_cons_of_none {c : Char} {rest : Text}
    (h : pattern.body.run rest = none) : pattern.occurs (c :: rest) = pattern.occurs rest := by
  rw [occurs, h, Option.isSome_none, Bool.and_false, Bool.false_or]

/-- Behind a text without opening characters a construct occurs where it did. -/
theorem occurs_append_of_notMem {front : Text} (h : pattern.opening ∉ front) :
    pattern.occurs (front ++ text) = pattern.occurs text := by
  induction front with
  | nil => rfl
  | cons c rest ih =>
    obtain ⟨hc, hrest⟩ := List.ne_and_not_mem_of_not_mem_cons h
    rw [List.cons_append, occurs, ih hrest]
    simp [Ne.symm hc]

/-! ## Passes over a text without constructs -/

/-- A character in front that opens no construct is a plain piece. -/
theorem pieces_cons_of_ne {c : Char} (h : c ≠ pattern.opening) (rest : Text) :
    pattern.pieces (c :: rest) = .plain c :: pattern.pieces rest := by
  rw [pieces, if_neg h]

/-- An opening character in front is a plain piece, if the rest cannot be read. -/
theorem pieces_cons_of_none {rest : Text} (h : pattern.body.run rest = none) :
    pattern.pieces (pattern.opening :: rest) = .plain pattern.opening :: pattern.pieces rest := by
  rw [pieces, if_pos rfl]
  split
  · next hsome => rw [h] at hsome; cases hsome
  · rfl

/-- An opening character in front and what is read behind it are one piece. -/
theorem pieces_cons_of_some {rest left : Text} {value : α}
    (h : pattern.body.run rest = some (value, left)) :
    pattern.pieces (pattern.opening :: rest) = .found value :: pattern.pieces left := by
  rw [pieces, if_pos rfl]
  split
  · next hsome =>
    rw [h] at hsome
    cases hsome
    rfl
  · next hnone => rw [h] at hnone; cases hnone

/-- The first piece is a construct that begins the text, or its first character. -/
theorem pieces_cases {piece : Piece α} {back : List (Piece α)}
    (h : pattern.pieces text = piece :: back) :
    (∃ tail value rest, text = pattern.opening :: tail ∧ pattern.body.run tail = some (value, rest) ∧
      piece = .found value ∧ pattern.pieces rest = back) ∨
    (∃ c tail, text = c :: tail ∧ (c = pattern.opening → pattern.body.run tail = none) ∧
      piece = .plain c ∧ pattern.pieces tail = back) := by
  cases text with
  | nil =>
    rw [pieces] at h
    cases h
  | cons c tail =>
    by_cases hc : c = pattern.opening
    · subst hc
      cases hrun : pattern.body.run tail with
      | none =>
        rw [pieces_cons_of_none hrun] at h
        obtain ⟨rfl, hback⟩ := List.cons.inj h
        exact .inr ⟨pattern.opening, tail, rfl, fun _ => hrun, rfl, hback⟩
      | some found =>
        rw [pieces_cons_of_some hrun] at h
        obtain ⟨rfl, hback⟩ := List.cons.inj h
        exact .inl ⟨tail, found.1, found.2, rfl, hrun, rfl, hback⟩
    · rw [pieces_cons_of_ne hc] at h
      obtain ⟨rfl, hback⟩ := List.cons.inj h
      exact .inr ⟨c, tail, rfl, fun heq => absurd heq hc, rfl, hback⟩

theorem eq_nil_of_pieces_eq_nil (h : pattern.pieces text = []) : text = [] := by
  cases text with
  | nil => rfl
  | cons c tail =>
    by_cases hc : c = pattern.opening
    · subst hc
      cases hrun : pattern.body.run tail with
      | none =>
        rw [pieces_cons_of_none hrun] at h
        cases h
      | some found =>
        rw [pieces_cons_of_some hrun] at h
        cases h
    · rw [pieces_cons_of_ne hc] at h
      cases h

/-- A plain piece in front is a character that begins no construct. -/
theorem exists_of_pieces_plain {c : Char} {back : List (Piece α)}
    (h : pattern.pieces text = .plain c :: back) :
    ∃ tail, text = c :: tail ∧ (c = pattern.opening → pattern.body.run tail = none) ∧
      pattern.pieces tail = back := by
  rcases pieces_cases h with ⟨_, _, _, -, -, hpiece, -⟩ | ⟨_, tail, rfl, hnone, hpiece, hback⟩
  · cases hpiece
  · cases hpiece
    exact ⟨tail, rfl, hnone, hback⟩

/-- A found piece in front is an opening character with what is read behind it. -/
theorem exists_of_pieces_found {value : α} {back : List (Piece α)}
    (h : pattern.pieces text = .found value :: back) :
    ∃ tail rest, text = pattern.opening :: tail ∧ pattern.body.run tail = some (value, rest) ∧
      pattern.pieces rest = back := by
  rcases pieces_cases h with ⟨tail, _, rest, rfl, hrun, hpiece, hback⟩ | ⟨_, _, -, -, hpiece, -⟩
  · cases hpiece
    exact ⟨tail, rest, rfl, hrun, hback⟩
  · cases hpiece

/-- Where the pieces of a text go on, the text goes on. -/
theorem exists_of_pieces_eq {front back : List (Piece α)} (h : pattern.pieces text = front ++ back) :
    ∃ rest, rest <:+ text ∧ pattern.pieces rest = back := by
  induction front generalizing text with
  | nil => exact ⟨text, List.suffix_refl text, h⟩
  | cons piece front ih =>
    rcases pieces_cases h with ⟨tail, _, left, rfl, hrun, -, hpieces⟩ | ⟨c, tail, rfl, -, -, hpieces⟩
    · obtain ⟨rest, hsuffix, hback⟩ := ih hpieces
      exact ⟨rest, hsuffix.trans ((pattern.body.suffix hrun).trans (List.suffix_cons _ _)), hback⟩
    · obtain ⟨rest, hsuffix, hback⟩ := ih hpieces
      exact ⟨rest, hsuffix.trans (List.suffix_cons c tail), hback⟩

/-- Where a pattern does not occur, all pieces are plain. -/
theorem pieces_of_not_occurs (h : pattern.occurs text = false) :
    pattern.pieces text = text.map .plain := by
  induction text with
  | nil => rw [pieces]; rfl
  | cons c rest ih =>
    have hrest := ih (not_occurs_of_suffix h (List.suffix_cons c rest))
    by_cases hc : c = pattern.opening
    · subst hc
      have hnone := occurs_eq_false_iff.mp h rest (List.suffix_refl _)
      rw [pieces_cons_of_none hnone, hrest]
      rfl
    · rw [pieces_cons_of_ne hc, hrest]
      rfl

/-- A construct is found in a text in which one occurs. -/
theorem any_pieces {found : Piece α → Bool} (hplain : ∀ c, found (.plain c) = false)
    (hfound : ∀ value, found (.found value) = true) (text : Text) :
    (pattern.pieces text).any found = pattern.occurs text := by
  induction text using pieces.induct pattern with
  | case1 => rw [pieces]; rfl
  | case2 tail value rest hsome ih =>
    rw [pieces_cons_of_some hsome, List.any_cons, hfound, Bool.true_or, occurs, hsome]
    simp
  | case3 tail hnone ih =>
    rw [pieces_cons_of_none hnone, List.any_cons, hplain, Bool.false_or, ih,
      occurs_cons_of_none hnone]
  | case4 c tail hc ih =>
    rw [pieces_cons_of_ne hc, List.any_cons, hplain, Bool.false_or, ih, occurs]
    simp [hc]

/-- A text is rewritten piece by piece. -/
theorem replaceWith_eq (pattern : Pattern α) (replacement : α → Text) (text : Text) :
    pattern.replaceWith replacement text
      = (pattern.pieces text).flatMap (Piece.write replacement) := by
  rw [replaceWith]
  congr 1

/-- Where a pattern does not occur, nothing is rewritten. -/
theorem replaceWith_of_not_occurs (h : pattern.occurs text = false) (replacement : α → Text) :
    pattern.replaceWith replacement text = text := by
  rw [replaceWith_eq, pieces_of_not_occurs h, flatMap_write_plain]

/-- Where a pattern does not occur, nothing is replaced. -/
theorem replace_of_not_occurs (h : pattern.occurs text = false) (replacement : Text) :
    pattern.replace replacement text = text :=
  replaceWith_of_not_occurs h _

/-- Where a pattern does not occur, nothing is removed. -/
theorem remove_of_not_occurs (h : pattern.occurs text = false) : pattern.remove text = text :=
  replace_of_not_occurs h []

/-- The value of a replacement that notes events is the replacement by values. -/
theorem value_replaceTraced (pattern : Pattern α) (replacement : α → Traced ε Text) (text : Text) :
    (pattern.replaceTraced replacement text).value
      = pattern.replaceWith (fun value => (replacement value).value) text := by
  rw [replaceTraced, Traced.value_bind, Traced.value_traverse, Traced.value_pure, replaceWith,
    List.flatMap_def]
  congr 2
  funext piece
  cases piece <;> rfl

/-! ## Replacement step by step -/

theorem replaceWith_nil (pattern : Pattern α) (replacement : α → Text) :
    pattern.replaceWith replacement [] = [] := by
  rw [replaceWith_eq, pieces]
  rfl

/-- A character in front that opens no construct is kept. -/
theorem replaceWith_cons_of_ne {c : Char} (h : c ≠ pattern.opening) (replacement : α → Text)
    (rest : Text) :
    pattern.replaceWith replacement (c :: rest) = c :: pattern.replaceWith replacement rest := by
  rw [replaceWith_eq, replaceWith_eq, pieces_cons_of_ne h, List.flatMap_cons]
  rfl

/-- An opening character in front is kept, if the rest cannot be read. -/
theorem replaceWith_cons_of_none {rest : Text} (h : pattern.body.run rest = none)
    (replacement : α → Text) :
    pattern.replaceWith replacement (pattern.opening :: rest)
      = pattern.opening :: pattern.replaceWith replacement rest := by
  rw [replaceWith_eq, replaceWith_eq, pieces_cons_of_none h, List.flatMap_cons]
  rfl

/-- A construct in front is replaced. -/
theorem replaceWith_cons_of_some {rest left : Text} {value : α}
    (h : pattern.body.run rest = some (value, left)) (replacement : α → Text) :
    pattern.replaceWith replacement (pattern.opening :: rest)
      = replacement value ++ pattern.replaceWith replacement left := by
  rw [replaceWith_eq, replaceWith_eq, pieces_cons_of_some h, List.flatMap_cons]
  rfl

/-- What a text begins with after a replacement, it began with before, unless a replaced construct
begins with it. -/
theorem head?_of_replaceWith {replacement : α → Text} {c : Char}
    (hne : ∀ value, replacement value ≠ []) (hc : ∀ value, c ∉ replacement value)
    (h : (pattern.replaceWith replacement text).head? = some c) : text.head? = some c := by
  cases text with
  | nil =>
    rw [replaceWith_nil] at h
    exact h
  | cons d rest =>
    by_cases hd : d = pattern.opening
    · subst hd
      cases hrun : pattern.body.run rest with
      | none =>
        rw [replaceWith_cons_of_none hrun] at h
        exact h
      | some found =>
        rw [replaceWith_cons_of_some hrun, List.head?_append_of_ne_nil _ (hne _)] at h
        exact absurd (List.mem_of_mem_head? h) (hc _)
    · rw [replaceWith_cons_of_ne hd] at h
      exact h

/-- The characters of a rewritten text are from the text or from a replacement. -/
theorem mem_replaceWith {replacement : α → Text} {c : Char}
    (h : c ∈ pattern.replaceWith replacement text) : c ∈ text ∨ ∃ value, c ∈ replacement value := by
  induction text using pieces.induct pattern with
  | case1 =>
    rw [replaceWith_nil] at h
    cases h
  | case2 tail value rest hsome ih =>
    rw [replaceWith_cons_of_some hsome] at h
    rcases List.mem_append.mp h with h | h
    · exact .inr ⟨value, h⟩
    · rcases ih h with hmem | hvalue
      · exact .inl (List.mem_cons_of_mem _ ((pattern.body.suffix hsome).subset hmem))
      · exact .inr hvalue
  | case3 tail hnone ih =>
    rw [replaceWith_cons_of_none hnone] at h
    rcases List.mem_cons.mp h with rfl | h
    · exact .inl List.mem_cons_self
    · exact (ih h).imp_left (List.mem_cons_of_mem _)
  | case4 d tail hd ih =>
    rw [replaceWith_cons_of_ne hd] at h
    rcases List.mem_cons.mp h with rfl | h
    · exact .inl List.mem_cons_self
    · exact (ih h).imp_left (List.mem_cons_of_mem _)

/-- A character that no construct reads is kept. -/
theorem mem_replaceWith_of_mem {replacement : α → Text} {c : Char} (hopening : c ≠ pattern.opening)
    (hread : ∀ {tail rest value}, pattern.body.run tail = some (value, rest) → c ∈ tail → c ∈ rest)
    (h : c ∈ text) : c ∈ pattern.replaceWith replacement text := by
  induction text using pieces.induct pattern with
  | case1 => cases h
  | case2 tail value rest hsome ih =>
    rw [replaceWith_cons_of_some hsome]
    exact List.mem_append_right _ (ih (hread hsome (List.mem_of_ne_of_mem hopening h)))
  | case3 tail hnone ih =>
    rw [replaceWith_cons_of_none hnone]
    exact List.mem_cons_of_mem _ (ih (List.mem_of_ne_of_mem hopening h))
  | case4 d tail hd ih =>
    rw [replaceWith_cons_of_ne hd]
    rcases List.mem_cons.mp h with rfl | h
    · exact List.mem_cons_self
    · exact List.mem_cons_of_mem d (ih h)

/-- Characters that stand side by side after a replacement, and not in what replaces constructs,
stood so before. -/
theorem pair_infix_of_replaceWith {replacement : α → Text} {c d : Char}
    (hne : ∀ value, replacement value ≠ []) (hc : ∀ value, c ∉ replacement value)
    (hd : ∀ value, d ∉ replacement value)
    (h : [c, d] <:+: pattern.replaceWith replacement text) : [c, d] <:+: text := by
  induction text using pieces.induct pattern with
  | case1 =>
    rw [replaceWith_nil] at h
    exact h
  | case2 tail value rest hsome ih =>
    rw [replaceWith_cons_of_some hsome] at h
    have hrest := ih ((Text.pair_infix_append_of_notMem (hc value)).mp h)
    exact hrest.trans ((pattern.body.suffix hsome).trans (List.suffix_cons _ _)).isInfix
  | case3 tail hnone ih =>
    rw [replaceWith_cons_of_none hnone] at h
    rw [Text.pair_infix_cons_iff] at h ⊢
    exact h.imp (And.imp_right (head?_of_replaceWith hne hd)) ih
  | case4 e tail he ih =>
    rw [replaceWith_cons_of_ne he] at h
    rw [Text.pair_infix_cons_iff] at h ⊢
    exact h.imp (And.imp_right (head?_of_replaceWith hne hd)) ih

/-- If what replaces constructs begins like them, then a text without opening characters at the
beginning is the same before and after the replacement. -/
theorem exists_of_replaceWith_eq {replacement : α → Text}
    (hopening : ∀ value, (replacement value).head? = some pattern.opening) {front back : Text}
    (hfront : pattern.opening ∉ front)
    (h : pattern.replaceWith replacement text = front ++ back) :
    ∃ rest, text = front ++ rest ∧ pattern.replaceWith replacement rest = back := by
  induction front generalizing text with
  | nil => exact ⟨text, rfl, h⟩
  | cons c front ih =>
    obtain ⟨hc, hrest⟩ := List.ne_and_not_mem_of_not_mem_cons hfront
    cases text with
    | nil =>
      rw [replaceWith_nil] at h
      cases h
    | cons d tail =>
      by_cases hd : d = pattern.opening
      · subst hd
        -- a construct, or an opening character that begins none, would begin the text otherwise
        have hhead : (pattern.replaceWith replacement (pattern.opening :: tail)).head?
            = some pattern.opening := by
          cases hrun : pattern.body.run tail with
          | none => rw [replaceWith_cons_of_none hrun, List.head?_cons]
          | some found =>
            rw [replaceWith_cons_of_some hrun, List.head?_append, hopening]
            rfl
        rw [h] at hhead
        exact absurd (Option.some.inj hhead).symm hc
      · rw [replaceWith_cons_of_ne hd] at h
        obtain ⟨rfl, htail⟩ := List.cons.inj h
        obtain ⟨rest, rfl, hback⟩ := ih hrest htail
        exact ⟨rest, rfl, hback⟩

/-! ## Removal -/

/-- The characters of a cut text that are outside of all constructs. -/
def plainText (pieces : List (Piece α)) : Text :=
  pieces.flatMap (Piece.write fun _ => [])

theorem plainText_cons (c : Char) (pieces : List (Piece α)) :
    plainText (.plain c :: pieces) = c :: plainText pieces :=
  rfl

theorem plainText_found (value : α) (pieces : List (Piece α)) :
    plainText (.found value :: pieces) = plainText pieces :=
  rfl

theorem plainText_append (front back : List (Piece α)) :
    plainText (front ++ back) = plainText front ++ plainText back :=
  List.flatMap_append

/-- What is left of a text are its plain pieces. -/
theorem remove_eq (pattern : Pattern α) (text : Text) :
    pattern.remove text = plainText (pattern.pieces text) :=
  replaceWith_eq pattern _ text

/-- The characters that are left are the plain pieces. -/
theorem mem_plainText {c : Char} {pieces : List (Piece α)} :
    c ∈ plainText pieces ↔ .plain c ∈ pieces := by
  rw [plainText, List.mem_flatMap]
  constructor
  · rintro ⟨piece, hpiece, hc⟩
    cases piece with
    | plain d => rwa [List.mem_singleton.mp hc]
    | found value => cases hc
  · intro hc
    exact ⟨.plain c, hc, List.mem_singleton_self c⟩

/-- A character outside of all constructs was cut as such. -/
theorem exists_of_plainText_eq {pieces : List (Piece α)} {front back : Text} {c : Char}
    (h : plainText pieces = front ++ c :: back) :
    ∃ before after, pieces = before ++ .plain c :: after ∧ plainText after = back := by
  induction pieces generalizing front with
  | nil => cases front <;> cases h
  | cons piece pieces ih =>
    cases piece with
    | found value =>
      obtain ⟨before, after, rfl, hafter⟩ := ih h
      exact ⟨.found value :: before, after, rfl, hafter⟩
    | plain d =>
      cases front with
      | nil =>
        obtain ⟨rfl, hback⟩ := List.cons.inj h
        exact ⟨[], pieces, rfl, hback⟩
      | cons e front =>
        obtain ⟨before, after, rfl, hafter⟩ := ih (List.cons.inj h).2
        exact ⟨.plain d :: before, after, rfl, hafter⟩

/-- What is left is written in the text, in this order. -/
theorem remove_sublist (pattern : Pattern α) (text : Text) : (pattern.remove text).Sublist text := by
  unfold remove replace
  induction text using pieces.induct pattern with
  | case1 =>
    rw [replaceWith_nil]
  | case2 tail value rest hsome ih =>
    rw [replaceWith_cons_of_some hsome]
    exact ih.trans ((pattern.body.suffix hsome).sublist.trans (List.sublist_cons_self _ _))
  | case3 tail hnone ih =>
    rw [replaceWith_cons_of_none hnone]
    exact ih.cons_cons _
  | case4 c tail hc ih =>
    rw [replaceWith_cons_of_ne hc]
    exact ih.cons_cons _

/-- No character comes in by removing. -/
theorem remove_subset (pattern : Pattern α) (text : Text) : pattern.remove text ⊆ text :=
  (pattern.remove_sublist text).subset

/-- If a construct occurs, its opening character goes. -/
theorem count_remove_lt (h : pattern.occurs text = true) :
    (pattern.remove text).count pattern.opening < text.count pattern.opening := by
  unfold remove replace
  induction text using pieces.induct pattern with
  | case1 => cases h
  -- the match takes its opening with it, and the rest gains none
  | case2 tail value rest hsome ih =>
    have hrest := (pattern.remove_sublist rest).count_le pattern.opening
    have htail := (pattern.body.suffix hsome).sublist.count_le pattern.opening
    rw [replaceWith_cons_of_some hsome, List.nil_append, List.count_cons_self]
    exact Nat.lt_succ_of_le (hrest.trans htail)
  | case3 tail hnone ih =>
    rw [occurs_cons_of_none hnone] at h
    rw [replaceWith_cons_of_none hnone, List.count_cons_self, List.count_cons_self]
    exact Nat.succ_lt_succ (ih h)
  | case4 c tail hc ih =>
    have htail : pattern.occurs tail = true := by simpa [occurs, hc] using h
    rw [replaceWith_cons_of_ne hc, List.count_cons_of_ne hc, List.count_cons_of_ne hc]
    exact ih htail

/-! ## Stretches -/

theorem stretches_ne_nil (pieces : List (Piece α)) : stretches pieces ≠ [] := by
  cases pieces with
  | nil => exact List.cons_ne_nil _ _
  | cons piece pieces =>
    cases piece with
    | found value => exact List.cons_ne_nil _ _
    | plain c =>
      rw [stretches]
      split <;> exact List.cons_ne_nil _ _

/-- A plain piece in front is part of the first stretch. -/
theorem stretches_plain {c : Char} {back : List (Piece α)} {first : Text} {others : List Text}
    (h : stretches back = first :: others) : stretches (.plain c :: back) = (c :: first) :: others := by
  rw [stretches, h]

/-- Plain pieces are one stretch. -/
theorem stretches_map_plain (text : Text) :
    stretches (text.map (Piece.plain (α := α))) = [text] := by
  induction text with
  | nil => rfl
  | cons c text ih => exact stretches_plain ih

/-- A found piece ends a stretch. -/
theorem stretches_map_plain_append (front : Text) (value : α) (back : List (Piece α)) :
    stretches (front.map .plain ++ .found value :: back) = front :: stretches back := by
  induction front with
  | nil => rfl
  | cons c front ih => exact stretches_plain ih

/-! ## A text around constructs -/

/-- A text in front of others is plain if the scanner refuses behind each of its opening characters. -/
theorem pieces_append_of_refused {front : Text}
    (h : ∀ tail, pattern.opening :: tail <:+ front → pattern.body.run (tail ++ text) = none) :
    pattern.pieces (front ++ text) = front.map .plain ++ pattern.pieces text := by
  induction front with
  | nil => rfl
  | cons c front ih =>
    have hfront := ih fun tail hsuffix => h tail (hsuffix.trans (List.suffix_cons c front))
    by_cases hc : c = pattern.opening
    · subst hc
      rw [List.cons_append, pieces_cons_of_none (h front (List.suffix_refl _)), hfront]
      rfl
    · rw [List.cons_append, pieces_cons_of_ne hc, hfront]
      rfl

/-- A text without opening characters in front of others is plain. -/
theorem pieces_append_of_notMem {front : Text} (h : pattern.opening ∉ front) :
    pattern.pieces (front ++ text) = front.map .plain ++ pattern.pieces text :=
  pieces_append_of_refused fun _ hsuffix => absurd (hsuffix.subset List.mem_cons_self) h

/-- A plain text in front of others is not touched by replacements in them. -/
theorem replaceWith_append_of_refused {front : Text}
    (h : ∀ tail, pattern.opening :: tail <:+ front → pattern.body.run (tail ++ text) = none)
    (replacement : α → Text) :
    pattern.replaceWith replacement (front ++ text) = front ++ pattern.replaceWith replacement text := by
  rw [replaceWith_eq, replaceWith_eq, pieces_append_of_refused h, List.flatMap_append,
    flatMap_write_plain]

/-- A text without opening characters is plain behind others, if the scanner is blind to it. -/
theorem pieces_append_of_blind {after : Text} (hblind : pattern.body.Blind after)
    (h : pattern.opening ∉ after) (text : Text) :
    pattern.pieces (text ++ after) = pattern.pieces text ++ after.map .plain := by
  induction text using pieces.induct pattern with
  | case1 =>
    rw [List.nil_append, pieces_of_not_occurs (not_occurs_of_notMem h), pieces]
    rfl
  -- the body does not see what is behind, so the match is the same
  | case2 tail value rest hsome ih =>
    have hafter : pattern.body.run (tail ++ after) = some (value, rest ++ after) := by
      rw [hblind, hsome]
      rfl
    rw [List.cons_append, pieces_cons_of_some hafter, pieces_cons_of_some hsome, ih]
    rfl
  | case3 tail hnone ih =>
    have hafter : pattern.body.run (tail ++ after) = none := by
      rw [hblind, hnone]
      rfl
    rw [List.cons_append, pieces_cons_of_none hafter, pieces_cons_of_none hnone, ih]
    rfl
  | case4 c tail hc ih =>
    rw [List.cons_append, pieces_cons_of_ne hc, pieces_cons_of_ne hc, ih]
    rfl

/-- Plain text around a text is not touched by replacements in it. -/
theorem replaceWith_between {before after : Text} (hbefore : pattern.opening ∉ before)
    (hblind : pattern.body.Blind after) (hafter : pattern.opening ∉ after)
    (replacement : α → Text) (text : Text) :
    pattern.replaceWith replacement (before ++ text ++ after)
      = before ++ pattern.replaceWith replacement text ++ after := by
  rw [replaceWith_eq, replaceWith_eq, List.append_assoc, pieces_append_of_notMem hbefore,
    pieces_append_of_blind hblind hafter, List.flatMap_append, List.flatMap_append,
    flatMap_write_plain, flatMap_write_plain, List.append_assoc]

end Pattern

/-! ## Passes until nothing is found -/

/-- If each pass that finds something lowers a measure of the text, then there is a last pass, and
there are not more of them than the measure says. -/
theorem exists_last_pass {pass : Text → Text} {Found : Text → Prop} (measure : Text → ℕ)
    (hless : ∀ text, Found text → measure (pass text) < measure text) (text : Text) :
    ∃ passes ≤ measure text, ¬ Found (pass^[passes] text) ∧
      ∀ earlier < passes, Found (pass^[earlier] text) := by
  induction hmeasure : measure text using Nat.strong_induction_on generalizing text with
  | _ count ih =>
    subst hmeasure
    by_cases hfound : Found text
    · obtain ⟨passes, hle, hlast, hearlier⟩ := ih _ (hless text hfound) (pass text) rfl
      refine ⟨passes + 1, (Nat.succ_le_succ hle).trans (hless text hfound), hlast, ?_⟩
      intro earlier hlt
      cases earlier with
      | zero => exact hfound
      | succ earlier => exact hearlier earlier (Nat.lt_of_succ_lt_succ hlt)
    · exact ⟨0, Nat.zero_le _, hfound, fun earlier hlt => absurd hlt (Nat.not_lt_zero earlier)⟩

end WikiText
