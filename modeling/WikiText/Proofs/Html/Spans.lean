import WikiText.Html.Inline
import WikiText.Proofs.Html.SpanTags

/-!
# Spans in spans

A span is read from its opening tag to the first closing tag (`exists_readsTo`), and what is left of it is not
looked at again (`unwraps`). So a span in which no other one is opened loses both of its tags. A span that is
opened in another one is cut in two, for the outer one ends at its closing tag: its opening tag is left in the
content of the outer one, and the closing tag of the outer one is left behind it (`ReadsTo.flat_or_deeper`).

What is left of spans that are not in others holds no tag if in front of each tag no bracket is open
(`Unwraps.not_occurs`): then nothing comes together to a tag, and white space that is squeezed makes none.
-/

namespace WikiText.Html

open Scanner
open Text (ink)
open Unicode (isWhiteSpace)

/-! ## How a span is read -/

/-- The pieces behind an opening tag that a span takes, and the content that it has with them. -/
inductive ReadsTo : List (Piece SpanTag) → Text → Prop
  | closed : ReadsTo [.found .closing] []
  | plain (c : Char) {front : List (Piece SpanTag)} {content : Text} (hfront : ReadsTo front content) :
    ReadsTo (.plain c :: front) (c :: content)
  | opening {inside : Text} (hinside : SpanTag.opening.Inside inside) {front : List (Piece SpanTag)}
    {content : Text} (hfront : ReadsTo front content) :
    ReadsTo (.found .opening :: front) (bracketed inside ++ content)
  /-- The closing tag stands among the attributes of another opening tag. -/
  | within (content : Text) : ReadsTo [.found .opening] ('<' :: content)

/-- A tag in front is one piece. -/
theorem pieces_bracketed {kind : SpanTag} {inside : Text} (h : kind.Inside inside) (rest : Text) :
    spanTag.pieces (bracketed inside ++ rest) = .found kind :: spanTag.pieces rest := by
  rw [bracketed_append]
  exact Pattern.pieces_cons_of_some (run_spanTag.mpr ⟨inside, h, rfl⟩)

/-- A character in front that begins no tag is one piece. -/
theorem pieces_cons {c : Char} {tail : Text} (h : c = '<' → spanTag.body.run tail = none) :
    spanTag.pieces (c :: tail) = .plain c :: spanTag.pieces tail := by
  by_cases hc : c = '<'
  · subst hc
    exact Pattern.pieces_cons_of_none (h rfl)
  · exact Pattern.pieces_cons_of_ne hc _

/-- Where no closing tag begins, a span goes on. -/
theorem exists_of_upToRun_cons {c : Char} {tail content rest : Text}
    (hopen : c = '<' → ∀ behind, spanTag.body.run tail ≠ some (.closing, behind))
    (h : upToRun (closeTag "span") (c :: tail) = some (content, rest)) :
    ∃ later, content = c :: later ∧ upToRun (closeTag "span") tail = some (later, rest) := by
  rw [upToRun, run_closeSpan_eq_none hopen] at h
  obtain ⟨⟨later, _⟩, hlater, heq⟩ := Option.map_eq_some_iff.mp h
  cases heq
  exact ⟨later, rfl, hlater⟩

/-- A span is closed before the next closing bracket or goes on behind it. -/
theorem upToRun_through {inside left content rest : Text} (hinside : '>' ∉ inside)
    (h : upToRun (closeTag "span") (inside ++ '>' :: left) = some (content, rest)) :
    rest = left ∨ ∃ later, content = inside ++ '>' :: later ∧
      upToRun (closeTag "span") left = some (later, rest) := by
  induction inside generalizing content with
  | nil => exact .inr (exists_of_upToRun_cons (fun heq => absurd heq (by decide)) h)
  | cons c inside ih =>
    obtain ⟨-, hrest⟩ := List.ne_and_not_mem_of_not_mem_cons hinside
    rw [List.cons_append, upToRun] at h
    split at h
    · next hclose =>
      cases h
      obtain ⟨closing, hclosing, heq⟩ := run_closeSpan_eq_some.mp hclose
      exact .inl (Text.eq_and_eq_of_append_cons hrest hclosing.unended (List.cons.inj heq).2).2.symm
    · obtain ⟨⟨more, _⟩, hmore, heq⟩ := Option.map_eq_some_iff.mp h
      cases heq
      rcases ih hrest hmore with rfl | ⟨later, rfl, hlater⟩
      · exact .inl rfl
      · exact .inr ⟨later, rfl, hlater⟩

/-- What is read up to a closing tag is the pieces before it. -/
theorem exists_readsTo {left content rest : Text}
    (h : upToRun (closeTag "span") left = some (content, rest)) :
    ∃ front, ReadsTo front content ∧ spanTag.pieces left = front ++ spanTag.pieces rest := by
  induction left using Pattern.pieces.induct spanTag generalizing content with
  | case1 => cases h
  | case2 tail kind behind hsome ih =>
    cases kind with
    | closing =>
      have hclose : (closeTag "span").run (spanTag.opening :: tail) = some ((), behind) :=
        run_closeSpan_cons.mpr ⟨rfl, hsome⟩
      rw [upToRun, hclose] at h
      cases h
      exact ⟨[.found .closing], .closed, Pattern.pieces_cons_of_some hsome⟩
    | opening =>
      obtain ⟨more, rfl, hmore⟩ := exists_of_upToRun_cons (fun _ _ => by simp [hsome]) h
      rw [Pattern.pieces_cons_of_some hsome]
      obtain ⟨inside, hinside, rfl⟩ := run_spanTag.mp hsome
      -- the closing tag does not begin within the opening one, so it is read after it or at its bracket
      rcases upToRun_through hinside.unended hmore with rfl | ⟨later, rfl, hlater⟩
      · exact ⟨[.found .opening], .within more, rfl⟩
      · obtain ⟨front, hfront, hpieces⟩ := ih hlater
        refine ⟨.found .opening :: front, ?_, by rw [hpieces, List.cons_append]⟩
        have hcontent := bracketed_append inside later
        exact hcontent ▸ .opening hinside hfront
  | case3 tail hnone ih =>
    obtain ⟨later, rfl, hlater⟩ := exists_of_upToRun_cons (fun _ _ => by simp [hnone]) h
    obtain ⟨front, hfront, hpieces⟩ := ih hlater
    refine ⟨.plain '<' :: front, .plain '<' hfront, ?_⟩
    rw [Pattern.pieces_cons_of_none hnone, hpieces]
    rfl
  | case4 c tail hc ih =>
    obtain ⟨later, rfl, hlater⟩ := exists_of_upToRun_cons (fun heq => absurd heq hc) h
    obtain ⟨front, hfront, hpieces⟩ := ih hlater
    refine ⟨.plain c :: front, .plain c hfront, ?_⟩
    rw [Pattern.pieces_cons_of_ne hc, hpieces]
    rfl

/-! ## What becomes of the pieces -/

/-- What the pieces of a text become when its spans are unwrapped. -/
inductive Unwraps : List (Piece SpanTag) → Text → Prop
  | nil : Unwraps [] []
  | plain (c : Char) {back : List (Piece SpanTag)} {result : Text} (hback : Unwraps back result) :
    Unwraps (.plain c :: back) (c :: result)
  /-- A closing tag stays if no span was opened, or if it was closed before. -/
  | closing {inside : Text} (hinside : SpanTag.closing.Inside inside) {back : List (Piece SpanTag)}
    {result : Text} (hback : Unwraps back result) :
    Unwraps (.found .closing :: back) (bracketed inside ++ result)
  /-- An opening tag stays if no closing tag comes behind it. -/
  | unclosed {inside : Text} (hinside : SpanTag.opening.Inside inside) {back : List (Piece SpanTag)}
    (hopen : .found .closing ∉ back) {result : Text} (hback : Unwraps back result) :
    Unwraps (.found .opening :: back) (bracketed inside ++ result)
  | span {front : List (Piece SpanTag)} {content : Text} (hfront : ReadsTo front content)
    {back : List (Piece SpanTag)} {result : Text} (hback : Unwraps back result) :
    Unwraps (.found .opening :: (front ++ back))
      ((Text.trimEnd content).squeeze isWhiteSpace ++ result)

/-- Where an opening bracket stands in a tag, the tag goes on without brackets that close it. -/
theorem exists_of_suffix_bracketed {inside tail : Text} (h : '<' :: tail <:+ bracketed inside) :
    ∃ part, tail = part ++ ['>'] ∧ part <:+ inside ∧ (part = inside ∨ '<' ∈ inside) := by
  rcases List.suffix_cons_iff.mp h with heq | hsuffix
  · exact ⟨inside, (List.cons.inj heq).2, List.suffix_refl _, .inl rfl⟩
  · rcases List.suffix_concat_iff.mp hsuffix with heq | ⟨part, heq, hpart⟩
    · cases heq
    · cases part with
      | nil => cases (List.cons.inj heq).1
      | cons c part =>
        obtain ⟨rfl, rfl⟩ := List.cons.inj heq
        exact ⟨part, rfl, (List.suffix_cons _ part).trans hpart, .inr (hpart.subset List.mem_cons_self)⟩

/-- A character in front that begins no tag is kept. -/
theorem unwrapSpans_cons {c : Char} {tail : Text} (h : c = '<' → spanTag.body.run tail = none) :
    unwrapSpans (c :: tail) = c :: unwrapSpans tail := by
  by_cases hc : c = '<'
  · subst hc
    have hopen : (openTag "span").run tail = none := by
      refine Option.eq_none_iff_forall_ne_some.mpr fun ⟨_, rest⟩ hrun => ?_
      obtain ⟨inside, hinside, heq⟩ := run_openSpan_eq_some.mp hrun
      have hsome := run_spanTag.mpr ⟨inside, hinside, heq⟩
      rw [h rfl] at hsome
      cases hsome
    have hbody : (element "span").body.run tail = none := by
      rw [element, run_bind, hopen, Option.bind_none]
    exact Pattern.replaceWith_cons_of_none hbody _
  · have hne : c ≠ (element "span").opening := hc
    exact Pattern.replaceWith_cons_of_ne hne _ _

/-- A tag stays if no span that could begin in it is closed. -/
theorem unwrapSpans_bracketed {kind : SpanTag} {inside rest : Text} (hinside : kind.Inside inside)
    (h : kind = .opening → upToRun (closeTag "span") rest = none) :
    unwrapSpans (bracketed inside ++ rest) = bracketed inside ++ unwrapSpans rest := by
  refine Pattern.replaceWith_append_of_refused (fun tail hsuffix => ?_) _
  refine Option.eq_none_iff_forall_ne_some.mpr fun ⟨content, left⟩ hrun => ?_
  obtain ⟨_, behind, hopen, hclose⟩ := exists_of_bind hrun
  obtain ⟨part, rfl, hpart, hwhole⟩ := exists_of_suffix_bracketed hsuffix
  -- a match would begin in the bracket itself, since its text has no other opening one
  obtain ⟨other, hother, heq⟩ := run_openSpan_eq_some.mp hopen
  rw [List.append_assoc, List.singleton_append] at heq
  have hunended : '>' ∉ part := fun hmem => hinside.unended (hpart.subset hmem)
  obtain ⟨rfl, rfl⟩ := Text.eq_and_eq_of_append_cons hunended hother.unended heq
  cases kind with
  | opening =>
    have hsome : upToRun (closeTag "span") rest = some (content, left) := hclose
    rw [h rfl] at hsome
    cases hsome
  | closing =>
    rcases hwhole with rfl | hmem
    · cases hinside.kind_eq hother
    · exact hinside.bracket_notMem.1 hmem

/-- A span in front is replaced by its content, trimmed at the end and squeezed. -/
theorem unwrapSpans_span {inside rest content left : Text} (hinside : SpanTag.opening.Inside inside)
    (h : upToRun (closeTag "span") rest = some (content, left)) :
    unwrapSpans (bracketed inside ++ rest)
      = (Text.trimEnd content).squeeze isWhiteSpace ++ unwrapSpans left := by
  have hopen : (openTag "span").run (inside ++ '>' :: rest) = some ((), rest) :=
    run_openSpan_eq_some.mpr ⟨inside, hinside, rfl⟩
  have hbody : (element "span").body.run (inside ++ '>' :: rest) = some (content, left) :=
    (run_bind_of_eq_some hopen).trans h
  rw [bracketed_append]
  exact Pattern.replaceWith_cons_of_some hbody _

/-- If a span is not closed, no closing tag comes behind its opening tag. -/
theorem closing_notMem {rest : Text} (h : upToRun (closeTag "span") rest = none) :
    .found .closing ∉ spanTag.pieces rest := by
  intro hmem
  obtain ⟨front, back, hpieces⟩ := List.append_of_mem hmem
  obtain ⟨place, hplace, hback⟩ := Pattern.exists_of_pieces_eq hpieces
  obtain ⟨tail, left, rfl, hrun, -⟩ := Pattern.exists_of_pieces_found hback
  have hclose : (closeTag "span").run (spanTag.opening :: tail) = some ((), left) :=
    run_closeSpan_cons.mpr ⟨rfl, hrun⟩
  exact upToRun_ne_none hplace (by rw [hclose]; exact Option.some_ne_none _) h

/-- What the pass does with the pieces of a text is as described. -/
theorem unwraps (text : Text) : Unwraps (spanTag.pieces text) (unwrapSpans text) := by
  induction hlength : text.length using Nat.strong_induction_on generalizing text with
  | _ length ih =>
    subst hlength
    cases text with
    | nil =>
      rw [unwrapSpans, Pattern.replaceWith_nil, Pattern.pieces]
      exact .nil
    | cons c tail =>
      -- the induction hypothesis, for whatever is left behind a piece
      have hlater := fun (rest : Text) (hsuffix : rest <:+ tail) =>
        ih rest.length (Nat.lt_succ_of_le hsuffix.length_le) rest rfl
      by_cases hplain : c = '<' → spanTag.body.run tail = none
      · rw [unwrapSpans_cons hplain, pieces_cons hplain]
        exact .plain c (hlater tail (List.suffix_refl tail))
      · obtain ⟨rfl, hsome⟩ := Classical.not_imp.mp hplain
        obtain ⟨⟨kind, rest⟩, hrun⟩ := Option.ne_none_iff_exists'.mp hsome
        have hrest := spanTag.body.suffix hrun
        obtain ⟨inside, hinside, rfl⟩ := run_spanTag.mp hrun
        rw [← bracketed_append, pieces_bracketed hinside]
        cases kind with
        | closing =>
          rw [unwrapSpans_bracketed hinside fun heq => absurd heq (by decide)]
          exact .closing hinside (hlater rest hrest)
        | opening =>
          -- an opening tag counts only if a closing one comes behind it
          cases hclose : upToRun (closeTag "span") rest with
          | none =>
            rw [unwrapSpans_bracketed hinside fun _ => hclose]
            exact .unclosed hinside (closing_notMem hclose) (hlater rest hrest)
          | some found =>
            obtain ⟨front, hfront, hpieces⟩ := exists_readsTo hclose
            rw [unwrapSpans_span hinside hclose, hpieces]
            exact .span hfront (hlater found.2 ((upToRun_suffix hclose).trans hrest))

/-! ## The tags of a text -/

/-- The tags among the pieces of a text. -/
def tagsOf (pieces : List (Piece SpanTag)) : List SpanTag :=
  pieces.filterMap fun
    | .plain _ => none
    | .found tag => some tag

theorem tagsOf_append (front back : List (Piece SpanTag)) :
    tagsOf (front ++ back) = tagsOf front ++ tagsOf back :=
  List.filterMap_append

/-- Plain characters are no tags. -/
theorem tagsOf_map_plain (text : Text) : tagsOf (text.map .plain) = [] := by
  simp [tagsOf]

theorem tagsOf_found (tag : SpanTag) (back : List (Piece SpanTag)) :
    tagsOf (.found tag :: back) = tag :: tagsOf back :=
  rfl

/-- A span that was closed has one tag behind its opening tag. -/
theorem tagsOf_closed (content : Text) :
    tagsOf (content.map .plain ++ [.found .closing]) = [.closing] := by
  rw [tagsOf_append, tagsOf_map_plain]
  rfl

/-- The tags are those that are found. -/
theorem mem_tagsOf {tag : SpanTag} {pieces : List (Piece SpanTag)} :
    tag ∈ tagsOf pieces ↔ .found tag ∈ pieces := by
  simp only [tagsOf, List.mem_filterMap]
  constructor
  · rintro ⟨piece, hpiece, heq⟩
    cases piece with
    | plain c => cases heq
    | found other =>
      cases heq
      exact hpiece
  · exact fun hmem => ⟨.found tag, hmem, rfl⟩

/-- Properly nested tags: from the left no more spans are closed than were opened, and in the end just as
many. -/
structure Nested (tags : List SpanTag) : Prop where
  opened : ∀ front, front <+: tags → front.count .closing ≤ front.count .opening
  closed : tags.count .opening = tags.count .closing

instance (tags : List SpanTag) : Decidable (Nested tags) :=
  decidable_of_iff ((∀ front ∈ tags.inits, front.count .closing ≤ front.count .opening) ∧
    tags.count .opening = tags.count .closing)
    ⟨fun h => ⟨fun front hfront => h.1 front ((List.mem_inits _ _).mpr hfront), h.2⟩,
      fun h => ⟨fun front hfront => h.opened front ((List.mem_inits _ _).mp hfront), h.closed⟩⟩

/-- Whether every opening tag is followed by a closing one, which has no other to close. -/
def alternate : List SpanTag → Bool
  | [] => true
  | .opening :: .closing :: rest => alternate rest
  | _ => false

/-- An opening tag in front adds no closing tag. -/
theorem count_closing_cons (tags : List SpanTag) :
    (SpanTag.opening :: tags).count .closing = tags.count .closing := by
  have hne : SpanTag.opening ≠ .closing := by decide
  exact List.count_cons_of_ne hne

/-- Where tags alternate there are as many opening tags as closing ones. -/
theorem count_eq_of_alternate {tags : List SpanTag} (h : alternate tags = true) :
    tags.count .opening = tags.count .closing := by
  fun_induction alternate tags with
  | case1 => rfl
  | case2 rest ih => simp [ih h]
  | case3 => cases h

/-! ## What a span takes -/

/-- The pieces that a span takes open another one. -/
structure Deeper (front : List (Piece SpanTag)) (content : Text) : Prop where
  opens : ∃ tags, tagsOf front = .opening :: tags
  count_le : (tagsOf front).count .closing ≤ 1
  /-- More than what is plain is left of them. -/
  ink_lt : (ink (Pattern.plainText front)).length < (ink content).length

/-- What a span takes up to its closing tag is its content. -/
theorem plainText_closed (content : Text) :
    Pattern.plainText (content.map .plain ++ [.found SpanTag.closing]) = content := by
  rw [Pattern.plainText_append, Pattern.plainText_found, Pattern.plainText, flatMap_write_plain]
  exact List.append_nil content

/-- A tag in front adds ink. -/
theorem length_ink_lt_bracketed (inside text : Text) :
    (ink text).length < (ink (bracketed inside ++ text)).length := by
  rw [Text.ink_append, List.length_append]
  exact Nat.lt_add_of_pos_left (Nat.succ_pos _)

/-- A span takes plain pieces and its closing tag, or another one is opened in it. -/
theorem ReadsTo.flat_or_deeper {front : List (Piece SpanTag)} {content : Text} (h : ReadsTo front content) :
    front = content.map .plain ++ [.found .closing] ∨ Deeper front content := by
  induction h with
  | closed => exact .inl rfl
  | @plain c front content hfront ih =>
    refine ih.imp (fun hflat => by rw [hflat]; rfl) fun hdeeper => ⟨hdeeper.opens, hdeeper.count_le, ?_⟩
    rw [Pattern.plainText_cons, Text.ink_cons, Text.ink_cons c content, List.length_append,
      List.length_append]
    exact Nat.add_lt_add_left hdeeper.ink_lt _
  | @opening inside hinside front content hfront ih =>
    refine .inr ⟨⟨tagsOf front, rfl⟩, ?_, ?_⟩
    · rw [tagsOf_found, count_closing_cons]
      rcases ih with rfl | hdeeper
      · rw [tagsOf_closed, List.count_singleton_self]
      · exact hdeeper.count_le
    · have hle : (ink (Pattern.plainText front)).length ≤ (ink content).length := by
        rcases ih with rfl | hdeeper
        · rw [plainText_closed]
        · exact hdeeper.ink_lt.le
      exact Nat.lt_of_le_of_lt hle (length_ink_lt_bracketed inside content)
  | within content => exact .inr ⟨⟨[], rfl⟩, by decide, Nat.succ_pos _⟩

/-- The plain characters that are read over are ink of the content, in order. -/
theorem ReadsTo.ink_sublist {front : List (Piece SpanTag)} {content : Text} (h : ReadsTo front content) :
    (ink (Pattern.plainText front)).Sublist (ink content) := by
  induction h with
  | closed => exact .slnil
  | @plain c front content hfront ih =>
    rw [Pattern.plainText_cons, Text.ink_cons, Text.ink_cons c content]
    exact (List.Sublist.refl _).append ih
  | opening hinside hfront ih =>
    rw [Pattern.plainText_found, Text.ink_append]
    exact ih.trans (List.sublist_append_right _ _)
  | within content => exact List.nil_sublist _

/-- Unwrapping a span keeps the ink of its content. -/
theorem ink_unwrapped (content : Text) :
    ink ((Text.trimEnd content).squeeze isWhiteSpace) = ink content := by
  rw [Text.ink_squeeze, Text.ink_trimEnd]

/-- An opening tag without a closing tag behind it makes the tags not alternate. -/
theorem not_alternate_of_notMem {back : List (Piece SpanTag)} (h : .found .closing ∉ back) :
    ¬ alternate (.opening :: tagsOf back) = true := by
  rw [← mem_tagsOf] at h
  cases htags : tagsOf back with
  | nil => exact Bool.false_ne_true
  | cons tag tags =>
    cases tag with
    | opening => exact Bool.false_ne_true
    | closing =>
      rw [htags] at h
      exact absurd List.mem_cons_self h

/-- Tags that go deeper do not alternate. -/
theorem Deeper.not_alternate {front : List (Piece SpanTag)} {content : Text} (h : Deeper front content)
    (tags : List SpanTag) : ¬ alternate (.opening :: (tagsOf front ++ tags)) = true := by
  obtain ⟨others, hothers⟩ := h.opens
  rw [hothers]
  exact Bool.false_ne_true

/-! ## What is left of a text -/

namespace Unwraps

variable {pieces : List (Piece SpanTag)} {result : Text}

/-- What is outside of all tags is kept, except for white space. -/
theorem ink_sublist (h : Unwraps pieces result) :
    (ink (Pattern.plainText pieces)).Sublist (ink result) := by
  induction h with
  | nil => exact .slnil
  | @plain c back result hback ih =>
    rw [Pattern.plainText_cons, Text.ink_cons, Text.ink_cons c result]
    exact (List.Sublist.refl _).append ih
  | closing hinside hback ih =>
    rw [Pattern.plainText_found, Text.ink_append]
    exact ih.trans (List.sublist_append_right _ _)
  | unclosed hinside hopen hback ih =>
    rw [Pattern.plainText_found, Text.ink_append]
    exact ih.trans (List.sublist_append_right _ _)
  | span hfront hback ih =>
    rw [Pattern.plainText_found, Pattern.plainText_append, Text.ink_append, Text.ink_append, ink_unwrapped]
    exact hfront.ink_sublist.append ih

/-- If a tag stays, more is left than what is outside of all tags. -/
theorem ink_bracketed_ne (h : Unwraps pieces result) (inside : Text) :
    ink (bracketed inside ++ result) ≠ ink (Pattern.plainText pieces) := by
  intro heq
  have hlt := length_ink_lt_bracketed inside result
  rw [heq] at hlt
  exact absurd h.ink_sublist.length_le (Nat.not_le_of_lt hlt)

/-- Nothing else is kept exactly if no span is in another one. -/
theorem ink_eq_iff (h : Unwraps pieces result) :
    ink result = ink (Pattern.plainText pieces) ↔ alternate (tagsOf pieces) = true := by
  induction h with
  | nil => exact ⟨fun _ => rfl, fun _ => rfl⟩
  | @plain c back result hback ih =>
    rw [Pattern.plainText_cons, Text.ink_cons, Text.ink_cons c (Pattern.plainText back),
      List.append_cancel_left_eq]
    exact ih
  | closing hinside hback ih =>
    exact iff_of_false (hback.ink_bracketed_ne _) Bool.false_ne_true
  | unclosed hinside hopen hback ih =>
    exact iff_of_false (hback.ink_bracketed_ne _) (not_alternate_of_notMem hopen)
  | span hfront hback ih =>
    rw [Pattern.plainText_found, Pattern.plainText_append, Text.ink_append, Text.ink_append, ink_unwrapped,
      tagsOf_found, tagsOf_append]
    rcases hfront.flat_or_deeper with rfl | hdeeper
    · rw [plainText_closed, List.append_cancel_left_eq, ih, tagsOf_closed]
      rfl
    -- a deeper tag is among the ink that is lost, so the lengths differ
    · refine iff_of_false (fun heq => ?_) (hdeeper.not_alternate _)
      have hlength := congrArg List.length heq
      rw [List.length_append, List.length_append] at hlength
      have hle := hback.ink_sublist.length_le
      have hlt := hdeeper.ink_lt
      omega

/-- If no tag is left of a text, spans are not in others, or some of them were never closed. -/
theorem alternate_or_unclosed (h : Unwraps pieces result) (hnone : ¬ HoldsSpanTag result) :
    alternate (tagsOf pieces) = true ∨
      (tagsOf pieces).count .closing < (tagsOf pieces).count .opening := by
  induction h with
  | nil => exact .inl rfl
  | plain c hback ih => exact ih fun hholds => hnone (hholds.of_part (List.suffix_cons c _).isInfix)
  | @closing inside hinside back result hback ih =>
    exact absurd ⟨.closing, inside, hinside, [], result, rfl⟩ hnone
  | @unclosed inside hinside back hopen result hback ih =>
    exact absurd ⟨.opening, inside, hinside, [], result, rfl⟩ hnone
  | @span front content hfront back result hback ih =>
    have hlater := ih fun hholds => hnone (hholds.of_part (List.suffix_append _ _).isInfix)
    rw [tagsOf_found, tagsOf_append]
    rcases hfront.flat_or_deeper with rfl | hdeeper
    · rw [tagsOf_closed]
      refine hlater.imp id fun hless => ?_
      simpa using hless
    -- within the span more tags are opened than closed, and behind it no fewer
    · have hle : (tagsOf back).count .closing ≤ (tagsOf back).count .opening :=
        hlater.elim (fun halternate => (count_eq_of_alternate halternate).ge) le_of_lt
      obtain ⟨others, hothers⟩ := hdeeper.opens
      have hclosings := hdeeper.count_le
      have hopenings : 0 < (tagsOf front).count .opening := by
        rw [hothers, List.count_cons_self]
        exact Nat.succ_pos _
      right
      rw [List.count_cons_self, count_closing_cons, List.count_append, List.count_append]
      omega

end Unwraps

/-! ## Closed brackets -/

/-- Every opening bracket has a closing one behind it. -/
def BracketsClosed (text : Text) : Prop :=
  ∀ tail, '<' :: tail <:+ text → '>' ∈ tail

/-- Brackets are closed exactly if each opening one has a closing one behind it. -/
theorem bracketsClosed_iff {text : Text} :
    BracketsClosed text ↔ ∀ part ∈ text.tails, part.head? = some '<' → '>' ∈ part.tail := by
  constructor
  · intro h part hpart hhead
    obtain ⟨tail, rfl⟩ := List.head?_eq_some_iff.mp hhead
    exact h tail ((List.mem_tails _ _).mp hpart)
  · exact fun h tail hsuffix => h ('<' :: tail) ((List.mem_tails _ _).mpr hsuffix) rfl

instance (text : Text) : Decidable (BracketsClosed text) :=
  decidable_of_iff _ bracketsClosed_iff.symm

/-- The brackets of a tail are closed if those of the text are. -/
theorem BracketsClosed.of_suffix {part text : Text} (h : BracketsClosed text) (hpart : part <:+ text) :
    BracketsClosed part :=
  fun tail htail => h tail (htail.trans hpart)

/-- What becomes of the content of a span leaves no bracket open that was closed. -/
theorem BracketsClosed.unwrapped {content : Text} (h : BracketsClosed content) :
    BracketsClosed ((Text.trimEnd content).squeeze isWhiteSpace) := by
  rintro tail ⟨front, hfront⟩
  obtain ⟨before, after, htrim, -, rfl⟩ := Text.exists_of_pass_eq
    (Text.squeeze_append_cons (by decide)) (fun _ => (Text.mem_squeeze_iff (by decide)).mp) hfront.symm
  obtain ⟨right, hright, hcontent⟩ := Text.exists_eq_trimEnd content
  have hsuffix : '<' :: (after ++ right) <:+ content :=
    ⟨before, by rw [hcontent, htrim, List.append_assoc]; rfl⟩
  rcases List.mem_append.mp (h _ hsuffix) with hmem | hmem
  · exact (Text.mem_squeeze_iff (by decide)).mpr hmem
  · exact absurd hmem (hright.notMem (by decide))

/-- In front of a text without tags, a text without tags stays such if its brackets are closed. -/
theorem not_occurs_append {front back : Text} (hfront : spanTag.occurs front = false)
    (hclosed : BracketsClosed front) (hback : spanTag.occurs back = false) :
    spanTag.occurs (front ++ back) = false := by
  induction front with
  | nil => exact hback
  | cons c front ih =>
    have hsuffix := List.suffix_cons c front
    have hlater := ih (Pattern.not_occurs_of_suffix hfront hsuffix) (hclosed.of_suffix hsuffix)
    rw [List.cons_append, occurs_cons_eq_false hlater]
    rintro rfl
    have hnone := Pattern.occurs_eq_false_iff.mp hfront front (List.suffix_refl _)
    rw [← List.append_nil front] at hnone
    exact run_spanTag_eq_none_of_append (hclosed front (List.suffix_refl _)) hnone

/-- Unwrapping makes no tag of a content without tags. -/
theorem occurs_unwrapped {content : Text} (h : spanTag.occurs content = false) :
    spanTag.occurs ((Text.trimEnd content).squeeze isWhiteSpace) = false := by
  obtain ⟨right, -, hcontent⟩ := Text.exists_eq_trimEnd content
  have hprefix : Text.trimEnd content <+: content := ⟨right, hcontent.symm⟩
  rw [← Bool.not_eq_true] at h ⊢
  exact fun hoccurs => h (occurs_spanTag.mpr
    ((occurs_spanTag.mp (occurs_spanTag_of_squeeze hoccurs)).of_part hprefix.isInfix))

/-! ## Brackets in front of tags -/

/-- In front of every tag of a span no bracket is open. -/
def TagsApart (pieces : List (Piece SpanTag)) : Prop :=
  ∀ stretch ∈ (Pattern.stretches pieces).dropLast, BracketsClosed stretch

instance (pieces : List (Piece SpanTag)) : Decidable (TagsApart pieces) :=
  inferInstanceAs (Decidable (∀ _ ∈ _, _))

namespace TagsApart

variable {back : List (Piece SpanTag)}

/-- What stands behind a plain character is apart too. -/
theorem of_plain {c : Char} (h : TagsApart (.plain c :: back)) : TagsApart back := by
  obtain ⟨first, others, hstretches⟩ := List.exists_cons_of_ne_nil (Pattern.stretches_ne_nil back)
  rw [TagsApart, Pattern.stretches_plain hstretches] at h
  rw [TagsApart, hstretches]
  cases others with
  | nil => exact fun _ hmem => (List.not_mem_nil hmem).elim
  | cons second others =>
    obtain ⟨hfirst, hothers⟩ := List.forall_mem_cons.mp h
    exact List.forall_mem_cons.mpr ⟨hfirst.of_suffix (List.suffix_cons c first), hothers⟩

/-- The content of a span has closed brackets, and what stands behind it is apart too. -/
theorem of_span {content : Text}
    (h : TagsApart (.found .opening :: (content.map .plain ++ .found .closing :: back))) :
    BracketsClosed content ∧ TagsApart back := by
  rw [TagsApart, Pattern.stretches, Pattern.stretches_map_plain_append, List.dropLast_cons_cons,
    List.dropLast_cons_of_ne_nil (Pattern.stretches_ne_nil back), List.forall_mem_cons,
    List.forall_mem_cons] at h
  exact h.2

end TagsApart

/-- What comes before the first tag stays as it is. -/
theorem Unwraps.exists_first {pieces : List (Piece SpanTag)} {result text : Text}
    (h : Unwraps pieces result) (hpieces : spanTag.pieces text = pieces) :
    ∃ first after later, text = first ++ after ∧ result = first ++ later ∧
      (Pattern.stretches pieces = [first] ∧ after = [] ∧ later = [] ∨
        ∃ others ≠ [], Pattern.stretches pieces = first :: others) := by
  induction h generalizing text with
  | nil =>
    obtain rfl := Pattern.eq_nil_of_pieces_eq_nil hpieces
    exact ⟨[], [], [], rfl, rfl, .inl ⟨rfl, rfl, rfl⟩⟩
  | plain c hback ih =>
    obtain ⟨tail, rfl, -, htail⟩ := Pattern.exists_of_pieces_plain hpieces
    obtain ⟨first, after, later, rfl, rfl, hstretches⟩ := ih htail
    exact ⟨c :: first, after, later, rfl, rfl, hstretches.imp (And.imp_left Pattern.stretches_plain)
      fun ⟨others, hothers, heq⟩ => ⟨others, hothers, Pattern.stretches_plain heq⟩⟩
  | closing => exact ⟨[], text, _, rfl, rfl, .inr ⟨_, Pattern.stretches_ne_nil _, rfl⟩⟩
  | unclosed => exact ⟨[], text, _, rfl, rfl, .inr ⟨_, Pattern.stretches_ne_nil _, rfl⟩⟩
  | span => exact ⟨[], text, _, rfl, rfl, .inr ⟨_, Pattern.stretches_ne_nil _, rfl⟩⟩

/-- An opening bracket that began no tag begins none, if it was closed in front of the next tag. -/
theorem Unwraps.run_eq_none {back : List (Piece SpanTag)} {result tail : Text} (h : Unwraps back result)
    (hpieces : spanTag.pieces tail = back) (hapart : TagsApart (.plain '<' :: back))
    (hnone : spanTag.body.run tail = none) : spanTag.body.run result = none := by
  obtain ⟨first, after, later, rfl, rfl, ⟨-, rfl, rfl⟩ | ⟨others, hothers, hstretches⟩⟩ :=
    h.exists_first hpieces
  · exact hnone
  · rw [TagsApart, Pattern.stretches_plain hstretches, List.dropLast_cons_of_ne_nil hothers,
      List.forall_mem_cons] at hapart
    exact run_spanTag_eq_none_of_append (hapart.1 first (List.suffix_refl _)) hnone

/-- What is plain at the beginning of a text holds no tag. -/
theorem exists_of_pieces_map_plain {text content : Text} {back : List (Piece SpanTag)}
    (h : spanTag.pieces text = content.map .plain ++ back) :
    (∃ left, text = content ++ left) ∧ spanTag.occurs content = false := by
  induction content generalizing text with
  | nil => exact ⟨⟨text, rfl⟩, rfl⟩
  | cons c content ih =>
    obtain ⟨tail, rfl, hnone, htail⟩ := Pattern.exists_of_pieces_plain h
    obtain ⟨⟨left, rfl⟩, hlater⟩ := ih htail
    refine ⟨⟨left, rfl⟩, (occurs_cons_eq_false hlater).mpr fun hc => ?_⟩
    by_cases hend : '>' ∈ content
    · have hcontent : spanTag.body.run (content ++ []) = none :=
        run_spanTag_eq_none_of_append hend (hnone hc)
      rwa [List.append_nil] at hcontent
    · exact run_spanTag_eq_none_of_notMem hend

/-- No tag is left of a text in which no span is in another one, if no bracket is open in front of a tag. -/
theorem Unwraps.not_occurs {pieces : List (Piece SpanTag)} {result text : Text} (h : Unwraps pieces result)
    (hpieces : spanTag.pieces text = pieces) (hflat : alternate (tagsOf pieces) = true)
    (hapart : TagsApart pieces) : spanTag.occurs result = false := by
  induction h generalizing text with
  | nil => rfl
  | @plain c back result hback ih =>
    obtain ⟨tail, rfl, hnone, htail⟩ := Pattern.exists_of_pieces_plain hpieces
    rw [occurs_cons_eq_false (ih htail hflat hapart.of_plain)]
    rintro rfl
    exact hback.run_eq_none htail hapart (hnone rfl)
  | closing hinside hback ih => cases hflat
  | unclosed hinside hopen hback ih => exact absurd hflat (not_alternate_of_notMem hopen)
  | @span front content hfront back result hback ih =>
    obtain ⟨_, rest, rfl, -, hrest⟩ := Pattern.exists_of_pieces_found hpieces
    rw [tagsOf_found, tagsOf_append] at hflat
    -- tags that alternate leave only spans whose content is without tags
    rcases hfront.flat_or_deeper with rfl | hdeeper
    · rw [tagsOf_closed] at hflat
      obtain ⟨_, _, hlater⟩ := Pattern.exists_of_pieces_eq hrest
      rw [List.append_assoc] at hrest hapart
      obtain ⟨hclosed, hback⟩ := hapart.of_span
      have hcontent := (exists_of_pieces_map_plain hrest).2
      exact not_occurs_append (occurs_unwrapped hcontent) hclosed.unwrapped (ih hlater hflat hback)
    · exact absurd hflat (hdeeper.not_alternate _)

/-! ## Unwrapping -/

/-- The tags of spans in a text are properly nested. -/
def NestedSpans (text : Text) : Prop :=
  Nested (tagsOf (spanTag.pieces text))

/-- No span of a text is in another one. -/
def FlatSpans (text : Text) : Prop :=
  alternate (tagsOf (spanTag.pieces text)) = true

instance (text : Text) : Decidable (NestedSpans text) :=
  inferInstanceAs (Decidable (Nested _))

instance (text : Text) : Decidable (FlatSpans text) :=
  inferInstanceAs (Decidable (_ = _))

/-- **Spans are unwrapped if none is in another one.** Of a text with properly nested spans everything outside
of their tags is kept, except for white space. Nothing else is kept exactly if no span is in another one, and a
tag is left if one is. If none is, no tag is left, provided that in front of each tag no bracket is open: an
open one could come together with what is behind the tag. -/
theorem unwrapSpans_flat {text : Text} (h : NestedSpans text) :
    (ink (spanTag.remove text)).Sublist (ink (unwrapSpans text)) ∧
    (ink (unwrapSpans text) = ink (spanTag.remove text) ↔ FlatSpans text) ∧
    (¬ HoldsSpanTag (unwrapSpans text) → FlatSpans text) ∧
    (FlatSpans text → TagsApart (spanTag.pieces text) → ¬ HoldsSpanTag (unwrapSpans text)) := by
  have hunwraps := unwraps text
  rw [Pattern.remove_eq]
  refine ⟨hunwraps.ink_sublist, hunwraps.ink_eq_iff, fun hnone => ?_, fun hflat hapart hholds => ?_⟩
  · exact (hunwraps.alternate_or_unclosed hnone).resolve_right fun hless => absurd h.closed hless.ne'
  · have hoccurs := hunwraps.not_occurs rfl hflat hapart
    rw [occurs_spanTag.mpr hholds] at hoccurs
    cases hoccurs

/-- Two spans side by side, one of them among other tags. -/
def sideBySide : Text :=
  "<b>x<SPAN class=\"a\">one\n two </span ></b><span>3</span>".toList

/-- Two spans side by side, of which the content is kept. -/
theorem unwrapSpans_flat_sideBySide :
    NestedSpans sideBySide ∧ unwrapSpans sideBySide = "<b>xone two</b>3".toList ∧
      ink (unwrapSpans sideBySide) = ink (spanTag.remove sideBySide) ∧
      ¬ HoldsSpanTag (unwrapSpans sideBySide) := by
  have hcut : NestedSpans sideBySide ∧ FlatSpans sideBySide ∧ TagsApart (spanTag.pieces sideBySide) ∧
      unwrapSpans sideBySide = "<b>xone two</b>3".toList := by decide +kernel
  obtain ⟨hnested, hflat, hapart, hresult⟩ := hcut
  obtain ⟨-, hink, -, hnone⟩ := unwrapSpans_flat hnested
  exact ⟨hnested, hresult, hink.mpr hflat, hnone hflat hapart⟩

/-- The outer span ends where the inner one is closed, and the other two tags are left. -/
theorem unwrapSpans_nested :
    ¬ ∀ text, NestedSpans text →
      ¬ HoldsSpanTag (unwrapSpans text) ∧ ink (unwrapSpans text) = ink (spanTag.remove text) := by
  intro h
  have hnested : NestedSpans "<span><span>a</span></span>".toList ∧
      HoldsSpanTag (unwrapSpans "<span><span>a</span></span>".toList) := by decide +kernel
  exact (h _ hnested.1).1 hnested.2

/-- A tag can come together around a span that is not in another one. -/
example : FlatSpans "<<span></span>span>".toList ∧
    unwrapSpans "<<span></span>span>".toList = "<span>".toList := by
  decide +kernel

end WikiText.Html
