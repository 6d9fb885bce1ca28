import WikiText.Proofs.Formula.Indexed
import WikiText.Proofs.Trace

/-!
# Rendering with a table of groups

The renderer with a table does what the renderer over atoms does: it never fails, gives the same text
and diagnostics, and ends with the table of groups (`render_indexed`). At every point that it passes,
all indices have entries, and the text of the sequence is the part of the formula that it comes from.

What one step may do to the store is said once (`Goes`): the table and the diagnostics grow by what is
named, and the points that are passed are sound. Steps compose (`Goes.trans`). The lemma on splicing is
by induction on the segments of a pass, the one on tokens by the recursion that reads them, and
`draft_spec` puts them together by induction on the fuel.
-/

namespace WikiText.Formula

/-! ## Steps -/

/-- What holds at a point: the columns are of one length, every index has an entry, and the text of the
sequence is the part of the formula that it comes from. -/
structure Point.Sound (formula : Text) (point : Point) : Prop where
  even : point.columns.Even
  index_lt : ∀ slot ∈ point.slots, ∀ index, slot.shape = .group index →
    index < point.columns.sources.length
  raw : rawText point.columns point.slots = some (formula.extract point.start point.stop)

/-- What happens between two stores: diagnostics are reported, groups are created, and points are
passed, all of them sound, with tables that only grow. -/
structure Goes (formula : Text) (before after : Store) (reports : List Diagnostic)
    (entries : List GroupEntry) : Prop where
  columns : after.columns = before.columns.add entries
  reports : after.reports = before.reports ++ reports
  points : ∃ points, after.points = before.points ++ points ∧
    points.Pairwise (fun point later => point.columns.Extends later.columns) ∧
    ∀ point ∈ points, point.Sound formula ∧ before.columns.Extends point.columns ∧
      point.columns.Extends after.columns

variable {formula : Text} {before middle after : Store} {reports more : List Diagnostic}
  {entries others : List GroupEntry} {start stop : ℕ} {slots : List Slot} {atoms : List Atom}

namespace Goes

/-- A step that passes no point. -/
theorem of_points_eq (hcolumns : after.columns = before.columns.add entries)
    (hreports : after.reports = before.reports ++ reports) (hpoints : after.points = before.points) :
    Goes formula before after reports entries where
  columns := hcolumns
  reports := hreports
  points := ⟨[], by rw [hpoints, List.append_nil], .nil, fun _ h => (List.not_mem_nil h).elim⟩

theorem refl (formula : Text) (store : Store) : Goes formula store store [] [] :=
  .of_points_eq (Columns.add_nil _).symm (List.append_nil _).symm rfl

/-- No entry is lost or moved. -/
theorem grows (h : Goes formula before after reports entries) :
    before.columns.Extends after.columns := by
  rw [h.columns]
  exact Columns.extends_add _ _

/-- The columns stay of one length. -/
theorem even (h : Goes formula before after reports entries) (heven : before.columns.Even) :
    after.columns.Even := by
  rw [h.columns]
  exact heven.add _

theorem trans (h : Goes formula before middle reports entries)
    (h' : Goes formula middle after more others) :
    Goes formula before after (reports ++ more) (entries ++ others) where
  columns := by rw [h'.columns, h.columns, Columns.add_add]
  reports := by rw [h'.reports, h.reports, List.append_assoc]
  points := by
    obtain ⟨points, hpoints, hpairwise, hsound⟩ := h.points
    obtain ⟨points', hpoints', hpairwise', hsound'⟩ := h'.points
    refine ⟨points ++ points', by rw [hpoints', hpoints, List.append_assoc], ?_, ?_⟩
    · refine List.pairwise_append.mpr ⟨hpairwise, hpairwise', fun point hpoint later hlater => ?_⟩
      exact (hsound point hpoint).2.2.trans (hsound' later hlater).2.1
    · intro point hpoint
      rcases List.mem_append.mp hpoint with hpoint | hpoint
      · obtain ⟨hhere, hfrom, hto⟩ := hsound point hpoint
        exact ⟨hhere, hfrom, hto.trans h'.grows⟩
      · obtain ⟨hhere, hfrom, hto⟩ := hsound' point hpoint
        exact ⟨hhere, h.grows.trans hfrom, hto⟩

/-- A point that has been passed stays recorded. -/
theorem mem_points (h : Goes formula before after reports entries) {point : Point}
    (hpoint : point ∈ before.points) : point ∈ after.points := by
  obtain ⟨points, hpoints, -⟩ := h.points
  rw [hpoints]
  exact List.mem_append_left _ hpoint

end Goes

/-- What a step gives is what the next one works on. -/
theorem run_next {α β : Type} {x : Drafting α} {next : α → Drafting β} {a : α}
    (h : x.run before = some (a, after)) : (x >>= next).run before = (next a).run after := by
  rw [StateT.run_bind, h]
  rfl

/-- A lookup that succeeds leaves the store as it is. -/
theorem run_lift {α : Type} {x : Option α} {a : α} (h : x = some a) (store : Store) :
    (liftM x : Drafting α).run store = some (a, store) := by
  rw [h]
  rfl

/-- Passing a point records it, and it is sound. -/
theorem goes_pass (heven : before.columns.Even)
    (h : Stands formula before.columns start stop slots atoms) :
    ∃ after, (pass start stop slots).run before = some ((), after) ∧
      Goes formula before after [] [] ∧ after.columns = before.columns ∧
      ⟨before.columns, slots, start, stop⟩ ∈ after.points := by
  refine ⟨_, rfl, ⟨(Columns.add_nil _).symm, (List.append_nil _).symm, ?_⟩, rfl,
    List.mem_append_right _ (List.mem_singleton_self _)⟩
  refine ⟨_, rfl, List.pairwise_singleton _ _, fun point hpoint => ?_⟩
  obtain rfl := List.mem_singleton.mp hpoint
  exact ⟨⟨heven, h.index_lt, h.rawText_eq⟩, .refl _, .refl _⟩

/-- Reporting adds the diagnostics and nothing else. -/
theorem goes_report (store : Store) (diagnostics : List Diagnostic) :
    ∃ after, (report diagnostics).run store = some ((), after) ∧
      Goes formula store after diagnostics [] :=
  ⟨_, rfl, .of_points_eq (Columns.add_nil _).symm rfl rfl⟩

/-- The index of a new group is that of its entry. -/
theorem goes_push (heven : before.columns.Even) (source rendered : Text) :
    ∃ index after, (push source rendered).run before = some (index, after) ∧
      Goes formula before after [] [⟨source, rendered⟩] ∧
      after.columns.sources[index]? = some source ∧
      after.columns.renderings[index]? = some rendered := by
  refine ⟨_, _, rfl, .of_points_eq rfl (List.append_nil _).symm rfl, ?_, ?_⟩
  · show (before.columns.sources ++ [source])[before.columns.renderings.length]? = some source
    rw [← heven]
    simp
  · show (before.columns.renderings ++ [rendered])[before.columns.renderings.length]? = some rendered
    simp

/-! ## Groups -/

/-- A renderer of sequences by index does with short sequences without pairs of braces what the
renderer over atoms does. -/
def RendersFlat (formula : Text) (bound : ℕ) (draft : ℕ → ℕ → List Slot → Drafting Text) : Prop :=
  ∀ {before : Store} {start stop : ℕ} {slots : List Slot} {atoms : List Atom},
    slots.length < bound → before.columns.Even →
    Stands formula before.columns start stop slots atoms → ¬ HasPair atoms →
    ∃ after, (draft start stop slots).run before = some (flatText atoms, after) ∧
      Goes formula before after (renderFlat atoms).trace []

/-- Without braces there is no pair of them. -/
theorem not_hasPair_of_forall (h : ∀ a ∈ atoms, a.isBrace = false) : ¬ HasPair atoms := by
  exact fun hpair => Bool.noConfusion (h (.char '{') hpair.mem.1)

variable {draft : ℕ → ℕ → List Slot → Drafting Text} {bound : ℕ} {opening closing : Slot}
  {inner : List Slot} {content : List Atom}

/-- The content of a pair of braces is rendered and its entry put last; one atom stands for the pair. -/
theorem group_spec (hdraft : RendersFlat formula bound draft) (hbound : inner.length < bound)
    (heven : before.columns.Even)
    (hopening : Stands formula before.columns start opening.stop [opening] [.char '{'])
    (hinner : Stands formula before.columns opening.stop closing.start inner content)
    (hclosing : Stands formula before.columns closing.start stop [closing] [.char '}'])
    (hcontent : ∀ a ∈ content, a.isBrace = false) :
    ∃ made after, (group draft opening inner closing).run before = some (made, after) ∧
      Stands formula after.columns start stop [made] [groupOf flatText content] ∧
      Goes formula before after (renderFlat content).trace
        [⟨Atom.sourceOf content, (flatText content).trim⟩] := by
  obtain ⟨rendering, hrendered, hgoes⟩ :=
    hdraft hbound heven hinner (not_hasPair_of_forall hcontent)
  obtain ⟨index, after, hpush, hpushed, hsource, hrendering⟩ :=
    goes_push (hgoes.even heven) (Atom.sourceOf content) (flatText content).trim
  refine ⟨⟨.group index, opening.start, closing.stop⟩, after, ?_, ?_, ?_⟩
  · have hraw : rawText before.columns inner = some (Atom.sourceOf content) := by
      rw [hinner.rawText_eq, hinner.sourceOf_eq]
    unfold group
    rw [run_next (by rfl : (get : Drafting Store).run before = some (before, before)),
      run_next (run_lift hraw before), run_next hrendered, run_next hpush]
    rfl
  · -- the braces and what is between them are the part of the formula that the group stands for
    have hwhole := ((hopening.append hinner).append hclosing).sourceOf_eq
    have hle := (hopening.append hinner).le.trans hclosing.le
    rw [← hopening.singleton.1, ← hclosing.singleton.2] at hwhole hle ⊢
    refine @Stands.cons formula after.columns ⟨.group index, opening.start, closing.stop⟩ _ _ _ _
      ?_ hle ?_ (.nil _)
    · rw [Slot.atom?]
      simp only [hsource, hrendering]
      rfl
    · rw [← hwhole]
      simp [groupOf, Atom.source, Atom.sourceOf_append]
  · simpa using hgoes.trans hpushed

/-! ## One pass -/

/-- A pair of braces behind some elements, by its positions. -/
theorem cut_at {slots front inner back : List Slot} {opening closing : Slot} {last : ℕ}
    (h : slots.drop last = front ++ opening :: (inner ++ closing :: back)) :
    slots[last + front.length]? = some opening ∧
      slots[last + front.length + inner.length + 1]? = some closing ∧
      (slots.take (last + front.length)).drop last = front ∧
      (slots.take (last + front.length + inner.length + 1)).drop (last + front.length + 1) = inner ∧
      slots.drop (last + front.length + inner.length + 1 + 1) = back := by
  -- what stands behind each of the two braces
  have hinside : slots.drop (last + front.length + 1) = inner ++ closing :: back := by
    rw [Nat.add_assoc, ← List.drop_drop, h]
    simp
  have hbehind : slots.drop (last + front.length + inner.length + 1) = closing :: back := by
    have hplace : last + front.length + inner.length + 1
        = last + front.length + 1 + inner.length := by omega
    rw [hplace, ← List.drop_drop, hinside, List.drop_left]
  refine ⟨?_, ?_, ?_, ?_, ?_⟩
  · rw [← List.getElem?_drop, h, List.getElem?_append_right (Nat.le_refl _), Nat.sub_self]
    rfl
  · rw [← List.head?_drop, hbehind]
    rfl
  · rw [List.drop_take, Nat.add_sub_cancel_left, h, List.take_left]
  · have hlength : last + front.length + inner.length + 1 - (last + front.length + 1)
        = inner.length := by omega
    rw [List.drop_take, hlength, hinside, List.take_left]
  · rw [← List.drop_drop, hbehind]
    rfl

/-- Splicing by position does what a pass over atoms does. `loose` are the atoms from the last
position on that were passed already. -/
theorem splice_spec (hdraft : RendersFlat formula bound draft) {slots : List Slot}
    (hslots : slots.length ≤ bound) {parts : List Segment} {loose : List Atom} {last : ℕ}
    (hparts : ∀ part ∈ parts, part.All fun _ => True) (heven : before.columns.Even)
    (h : Stands formula before.columns start stop (slots.drop last)
      (loose ++ parts.flatMap Segment.atoms)) :
    ∃ collapsed after,
      (splice draft slots last (spansOf (last + loose.length) parts)).run before
        = some (collapsed, after) ∧
      Stands formula after.columns start stop collapsed
        (loose ++ parts.map (Segment.become flatText)) ∧
      Goes formula before after (collapse renderFlat parts).trace (collapse enter parts).trace := by
  induction parts generalizing loose last start before with
  | nil => exact ⟨_, before, rfl, by simpa using h, .refl _ _⟩
  | cons part parts ih =>
    have hlater : ∀ part ∈ parts, part.All fun _ => True :=
      fun part hpart => hparts part (List.mem_cons_of_mem _ hpart)
    cases part with
    | loose atom =>
      have hnext : Stands formula before.columns start stop (slots.drop last)
          ((loose ++ [atom]) ++ parts.flatMap Segment.atoms) := by
        simpa [Segment.atoms] using h
      obtain ⟨collapsed, after, hrun, hstands, hgoes⟩ := ih hlater heven hnext
      rw [List.length_append] at hrun
      refine ⟨collapsed, after, hrun, by simpa [Segment.become] using hstands, ?_⟩
      simpa [collapse, Segment.toAtom, Traced.trace_traverse] using hgoes
    | braced content =>
      obtain ⟨-, hplain⟩ := hparts _ List.mem_cons_self
      -- what stands before the braces, the braces, what is between them, and what is behind
      obtain ⟨front, _, place, hslotsEq, hfront, hbehind⟩ := h.exists_of_append
      rw [List.flatMap_cons, Segment.atoms, List.append_assoc, List.cons_append] at hbehind
      obtain ⟨opening, _, rfl, rfl, hopening, hinside⟩ := hbehind.uncons
      obtain ⟨inner, _, place, rfl, hinner, hclose⟩ := hinside.exists_of_append
      obtain ⟨closing, back, rfl, rfl, hclosing, hback⟩ := hclose.uncons
      obtain ⟨hopeningAt, hclosingAt, hfrontAt, hinnerAt, hbackAt⟩ := cut_at hslotsEq
      have hbound : inner.length < bound := by
        have hlength := congrArg List.length hslotsEq
        simp only [List.length_drop, List.length_append, List.length_cons] at hlength
        omega
      obtain ⟨made, middle, hmade, hgroup, hgoes⟩ := group_spec hdraft hbound heven hopening hinner
        hclosing fun a ha => (hplain a ha).2
      have hnext : Stands formula middle.columns closing.stop stop
          (slots.drop (last + front.length + inner.length + 1 + 1))
          ([] ++ parts.flatMap Segment.atoms) := by
        rw [hbackAt]
        exact hback.mono hgoes.grows
      obtain ⟨later, after, hlaterRun, hstands, hgoesLater⟩ := ih hlater (hgoes.even heven) hnext
      refine ⟨front ++ made :: later, after, ?_, ?_, ?_⟩
      · rw [spansOf, ← hfront.length_eq, ← hinner.length_eq, splice,
          run_next (run_lift hopeningAt before), run_next (run_lift hclosingAt before)]
        rw [hinnerAt, hfrontAt, run_next hmade]
        exact run_next hlaterRun
      · have hfrontLater := (hfront.mono hgoes.grows).mono hgoesLater.grows
        exact hfrontLater.append ((hgroup.mono hgoesLater.grows).append hstands)
      · have htrans := hgoes.trans hgoesLater
        simpa [collapse, Traced.trace_traverse, trace_toAtom_braced, enter] using htrans

/-! ## Tokens -/

/-- A slot shows a character exactly if its atom is that character. -/
theorem isChar_iff {columns : Columns} {slot : Slot} {atom : Atom}
    (h : slot.atom? columns = some atom) (c : Char) : slot.isChar c = true ↔ atom = .char c := by
  rw [Slot.isChar, decide_eq_true_iff]
  exact Slot.shape_eq_char_iff h c

/-- An element of a sequence that names atoms without a character is not that character. -/
theorem Stands.isChar_eq_false {columns : Columns} {c : Char}
    (h : Stands formula columns start stop slots atoms) (hnot : .char c ∉ atoms) :
    ∀ slot ∈ slots, slot.isChar c = false := by
  induction h with
  | nil place => intro slot hslot; cases hslot
  | cons named le source rest ih =>
    intro slot hslot
    rcases List.mem_cons.mp hslot with rfl | hslot
    · rw [Bool.eq_false_iff, Ne, isChar_iff named]
      rintro rfl
      exact hnot List.mem_cons_self
    · exact ih (fun hmem => hnot (List.mem_cons_of_mem _ hmem)) slot hslot

/-- The slot of a character shows it. -/
theorem Stands.isChar_eq_true {columns : Columns} {c : Char} {slot : Slot}
    (h : Stands formula columns start stop [slot] [.char c]) : slot.isChar c = true := by
  obtain ⟨_, _, heq, -, hnamed, -⟩ := h.exists_of_cons
  cases heq
  exact (isChar_iff hnamed c).mpr rfl

/-- What stands behind elements that are not a character and before one that is. -/
theorem dropWhile_isChar {c : Char} {front back : List Slot} {slot : Slot}
    (hfront : ∀ slot ∈ front, slot.isChar c = false) (hslot : slot.isChar c = true) :
    (front ++ slot :: back).dropWhile (!·.isChar c) = slot :: back ∧
      (front ++ slot :: back).takeWhile (!·.isChar c) = front := by
  have hall : ∀ slot ∈ front, (!slot.isChar c) = true := fun slot hmem => by simp [hfront slot hmem]
  constructor
  · rw [List.dropWhile_append_of_pos hall, List.dropWhile_cons_of_neg (by simp [hslot])]
  · rw [List.takeWhile_append_of_pos hall, List.takeWhile_cons_of_neg (by simp [hslot]),
      List.append_nil]

/-- A degree is found between its brackets. -/
theorem exists_bracketed {columns : Columns} {front degree tail : List Atom}
    (h : Stands formula columns start stop slots
      (front ++ .char '[' :: (degree ++ .char ']' :: tail)))
    (hfront : .char '[' ∉ front) (hdegree : .char ']' ∉ degree) :
    ∃ place behind inner, bracketed slots = some (place, behind, inner) ∧
      Stands formula columns place behind inner degree ∧ inner.length < slots.length := by
  obtain ⟨first, _, place, rfl, hfirst, hbehind⟩ := h.exists_of_append
  obtain ⟨opening, _, rfl, rfl, hopening, hinside⟩ := hbehind.uncons
  obtain ⟨inner, _, place, rfl, hinner, hclose⟩ := hinside.exists_of_append
  obtain ⟨closing, back, rfl, rfl, hclosing, -⟩ := hclose.uncons
  refine ⟨opening.stop, closing.start, inner, ?_, hinner, by simp; omega⟩
  unfold bracketed
  rw [(dropWhile_isChar (hfirst.isChar_eq_false hfront) hopening.isChar_eq_true).1]
  dsimp only
  rw [(dropWhile_isChar (hinner.isChar_eq_false hdegree) hclosing.isChar_eq_true).1,
    (dropWhile_isChar (hinner.isChar_eq_false hdegree) hclosing.isChar_eq_true).2]
  rfl

/-- All that a token renders by itself is its degree. -/
theorem render_of_degree? (token : Token) (renderDegree : List Atom → Traced Diagnostic Text) :
    token.render renderDegree = match token.degree? with
      | none => token.render (fun _ => pure [])
      | some degree => renderDegree degree >>= fun text => token.render (fun _ => pure text) := by
  cases token with
  | item modifier shift operand =>
    cases modifier with
    | none => rfl
    | some modifier =>
      cases modifier with
      | root degree => cases degree <;> rfl
      | _ => rfl
  | _ => rfl

/-- The degree of a token is rendered by itself. -/
theorem degreeText_spec (hdraft : RendersFlat formula bound draft) (hbound : slots.length ≤ bound)
    (heven : before.columns.Even) (h : Stands formula before.columns start stop slots atoms)
    (hflat : ¬ HasPair atoms) {token : Token} {rest : List Atom}
    (htoken : Token.scanner.run atoms = some (token, rest)) :
    ∃ text reports after, (degreeText draft token slots).run before = some (text, after) ∧
      Goes formula before after reports [] ∧
      token.render renderFlat = ⟨(token.render fun _ => pure text).value,
        reports ++ (token.render fun _ => pure text).trace⟩ := by
  rw [render_of_degree? token renderFlat, degreeText]
  cases hdegree : token.degree? with
  | none => exact ⟨[], [], before, rfl, .refl _ _, rfl⟩
  | some degree =>
    obtain ⟨front, tail, rfl, hfront, hclose⟩ := exists_of_token_degree htoken hdegree
    obtain ⟨place, behind, inner, hbracketed, hinner, hlength⟩ := exists_bracketed h hfront hclose
    have hpart := infix_bracketed front degree tail
    obtain ⟨after, hrun, hgoes⟩ := hdraft (hlength.trans_le hbound) heven hinner fun hpair =>
      hflat (hpair.of_part hpart)
    exact ⟨_, _, after, (run_next (run_lift hbracketed before)).trans hrun, hgoes, rfl⟩

/-- A token is expanded as it is rendered. -/
theorem expand_spec (hdraft : RendersFlat formula bound draft) (hbound : slots.length ≤ bound)
    (heven : before.columns.Even) (h : Stands formula before.columns start stop slots atoms)
    (hflat : ¬ HasPair atoms) {token : Token} {rest : List Atom}
    (htoken : Token.scanner.run atoms = some (token, rest)) :
    ∃ after, (expand draft token slots).run before = some ((token.render renderFlat).value, after) ∧
      Goes formula before after (token.render renderFlat).trace [] := by
  obtain ⟨text, reports, middle, hdegree, hgoes, hrender⟩ :=
    degreeText_spec hdraft hbound heven h hflat htoken
  obtain ⟨after, hreport, hreported⟩ : ∃ after,
      (report (token.render fun _ => pure text).trace).run middle = some ((), after) ∧
        Goes formula middle after _ [] := goes_report middle _
  refine ⟨after, ?_, ?_⟩
  · rw [hrender, expand, run_next hdegree]
    exact run_next hreport
  · rw [hrender]
    exact hgoes.trans hreported

/-- The first token takes the slots of the atoms it is read from. -/
theorem spread_of_some {token : Token} {rest : List Atom}
    (h : Token.scanner.run atoms = some (token, rest)) :
    Token.spread slots atoms
      = (token, slots) :: Token.spread (slots.drop (atoms.length - rest.length)) rest := by
  rw [Token.spread]
  split
  · next token' rest' h' =>
    cases h.symm.trans h'
    rfl
  · next h' => cases h.symm.trans h'

/-- Where no token is read no slot is taken. -/
theorem spread_of_none (h : Token.scanner.run atoms = none) : Token.spread slots atoms = [] := by
  rw [Token.spread]
  split
  · next h' => cases h.symm.trans h'
  · rfl

/-- The tokens of a flat sequence are expanded as they are rendered. -/
theorem expandAll_spec (hdraft : RendersFlat formula bound draft) (hbound : slots.length ≤ bound)
    (heven : before.columns.Even) (h : Stands formula before.columns start stop slots atoms)
    (hflat : ¬ HasPair atoms) :
    ∃ after, (expandAll draft (Token.spread slots atoms)).run before
        = some ((Traced.traverse (Token.render renderFlat) (Token.all atoms)).value, after) ∧
      Goes formula before after (Traced.traverse (Token.render renderFlat) (Token.all atoms)).trace
        [] := by
  fun_induction Token.all atoms generalizing before start slots with
  | case1 atoms token rest htoken ih =>
    obtain ⟨middle, hexpand, hgoes⟩ := expand_spec hdraft hbound heven h hflat htoken
    obtain ⟨block, rfl⟩ := Token.scanner.suffix htoken
    -- the slots are cut where the token ends
    obtain ⟨front, back, place, rfl, hfront, hback⟩ := h.exists_of_append
    have hdrop : (front ++ back).drop ((block ++ rest).length - rest.length) = back := by
      rw [List.length_append, Nat.add_sub_cancel, ← hfront.length_eq, List.drop_left]
    have hlength : back.length ≤ bound := by
      rw [List.length_append] at hbound
      omega
    have hrest : ¬ HasPair rest := fun hpair => hflat (hpair.of_part (List.suffix_append _ _).isInfix)
    obtain ⟨after, hlater, hgoesLater⟩ :=
      ih hlength (hgoes.even heven) (hback.mono hgoes.grows) hrest
    rw [spread_of_some htoken, hdrop]
    refine ⟨after, ?_, ?_⟩
    · rw [expandAll, run_next hexpand, run_next hlater]
      rfl
    · rw [Traced.traverse, Traced.trace_bind, Traced.trace_bind, Traced.trace_pure, List.append_nil]
      exact hgoes.trans hgoesLater
  | case2 atoms hnone =>
    rw [spread_of_none hnone]
    exact ⟨before, rfl, .refl _ _⟩

/-! ## Depth -/

/-- The degree of a token is shorter than the sequence that the token is read from. -/
theorem length_degree_lt {atoms degree : List Atom} {token : Token} (htoken : token ∈ Token.all atoms)
    (hdegree : token.degree? = some degree) : degree.length < atoms.length := by
  obtain ⟨place, rest, hplace, hrun⟩ := exists_suffix_of_mem_all htoken
  obtain ⟨front, tail, rfl, -⟩ := exists_of_token_degree hrun hdegree
  have hlength := hplace.length_le
  simp only [List.length_append, List.length_cons] at hlength
  omega

/-- How degrees are rendered matters to a token only if it has one. -/
theorem render_congr {token : Token} {render render' : List Atom → Traced Diagnostic Text}
    (h : ∀ degree, token.degree? = some degree → render degree = render' degree) :
    token.render render = token.render render' := by
  rw [render_of_degree? token render, render_of_degree? token render']
  cases hdegree : token.degree? with
  | none => rfl
  | some degree => exact congrArg (· >>= _) (h degree hdegree)

/-- More depth than a sequence is long makes no difference. -/
theorem renderFlatUpTo_eq {depth depth' : ℕ} (h : atoms.length < depth) (h' : atoms.length < depth') :
    renderFlatUpTo depth atoms = renderFlatUpTo depth' atoms := by
  induction depth generalizing depth' atoms with
  | zero => omega
  | succ depth ih =>
    cases depth' with
    | zero => omega
    | succ depth' =>
      rw [renderFlatUpTo, renderFlatUpTo]
      congr 1
      refine Traced.traverse_congr fun token htoken => render_congr fun degree hdegree => ?_
      have hlength := length_degree_lt htoken hdegree
      exact ih (by omega) (by omega)

/-- A flat sequence is rendered token by token, and degrees by themselves. -/
theorem renderFlat_eq (atoms : List Atom) :
    renderFlat atoms = do
      let parts ← Traced.traverse (Token.render renderFlat) (Token.all atoms)
      return joinParts none parts := by
  rw [renderFlat, renderFlatUpTo]
  congr 1
  refine Traced.traverse_congr fun token htoken => render_congr fun degree hdegree => ?_
  exact renderFlatUpTo_eq (length_degree_lt htoken hdegree) (Nat.lt_succ_self _)

/-! ## Whole formulas -/

/-- Renders a sequence of atoms in which pairs of braces may stand. -/
def renderAtoms (atoms : List Atom) : Traced Diagnostic Text := do
  let flat ← flatten renderFlat atoms
  renderFlat flat

/-- Without a pair of braces there is one pass. -/
theorem renderAtoms_of_not_hasPair (h : ¬ HasPair atoms) : renderAtoms atoms = renderFlat atoms := by
  rw [renderAtoms, flatten_of_not_hasPair renderFlat h]
  rfl

/-- One pass, and then the sequence that it leaves. -/
theorem renderAtoms_of_braced (h : (segments atoms).any Segment.isBraced = true) :
    renderAtoms atoms = collapse renderFlat (segments atoms) >>= renderAtoms := by
  rw [renderAtoms, flatten, dif_pos h]
  exact Traced.ext rfl (List.append_assoc _ _ _)

/-- The reports of the first pass come before those of the passes behind it. -/
theorem trace_flatten_of_braced {ε : Type} {render : List Atom → Traced ε Text}
    (h : (segments atoms).any Segment.isBraced = true) :
    (flatten render atoms).trace = (collapse render (segments atoms)).trace
      ++ (flatten render (collapse render (segments atoms)).value).trace := by
  rw [flatten, dif_pos h]

/-- **The renderer with a table does what the renderer over atoms does.** It comes to a point at which
nothing is left to be collapsed of the sequence. -/
theorem draft_spec {fuel : ℕ} (hfuel : slots.length < fuel) (heven : before.columns.Even)
    (h : Stands formula before.columns start stop slots atoms) :
    ∃ after, (Formula.draft fuel start stop slots).run before
        = some ((renderAtoms atoms).value, after) ∧
      Goes formula before after (renderAtoms atoms).trace (flatten enter atoms).trace ∧
      ∃ point ∈ after.points, point.start = start ∧ point.stop = stop ∧ spans point.slots = [] := by
  induction fuel generalizing before start stop slots atoms with
  | zero => omega
  | succ fuel ih =>
    -- on the sequences in braces, which are shorter, the renderer with less fuel is called
    have hdraft : RendersFlat formula fuel (Formula.draft fuel) := by
      intro before start stop slots atoms hbound heven h hflat
      obtain ⟨after, hrun, hgoes, -⟩ := ih hbound heven h
      rw [renderAtoms_of_not_hasPair hflat, flatten_of_not_hasPair enter hflat] at hgoes
      rw [renderAtoms_of_not_hasPair hflat] at hrun
      exact ⟨after, hrun, hgoes⟩
    obtain ⟨passed, hpass, hpassed, hcolumns, hpoint⟩ := goes_pass heven h
    rw [← hcolumns] at h heven
    have hbound : slots.length ≤ fuel := Nat.lt_succ_iff.mp hfuel
    have hspans : spans slots = spansOf 0 (segments atoms) := spans_eq h.atoms?_eq
    rw [Formula.draft, run_next hpass]
    by_cases hbraced : (segments atoms).any Segment.isBraced = true
    · have hsome : ¬ (spans slots).isEmpty = true := by
        rw [hspans, List.isEmpty_iff, spansOf_eq_nil_iff, hbraced]
        exact Bool.noConfusion
      have hparts : ∀ part ∈ segments atoms, part.All fun _ => True :=
        all_segmentsFrom (fun _ => trivial) none atoms (by simp) fun _ _ => trivial
      have hcut : Stands formula passed.columns start stop (slots.drop 0)
          ([] ++ (segments atoms).flatMap Segment.atoms) := by
        rw [flatMap_segments]
        exact h
      obtain ⟨collapsed, middle, hsplice, hstands, hgoes⟩ :=
        splice_spec hdraft hbound hparts heven hcut
      have hvalue : (collapse renderFlat (segments atoms)).value
          = (segments atoms).map (Segment.become flatText) := value_collapse (fun _ => rfl) _
      have henter : ∀ content, (enter content).value = (renderFlat content).value := fun _ => rfl
      rw [List.nil_append, ← hvalue] at hstands
      -- the next pass is over fewer slots, for each pair has become one
      have hlength : collapsed.length < fuel := by
        have hshorter := length_collapse renderFlat atoms hbraced
        rw [hstands.length_eq]
        rw [h.length_eq] at hbound
        omega
      obtain ⟨after, hrun, hgoesLater, hwhole⟩ := ih hlength (hgoes.even heven) hstands
      change (splice (Formula.draft fuel) slots 0 (spansOf 0 (segments atoms))).run passed = _
        at hsplice
      rw [if_neg hsome, hspans, run_next hsplice, renderAtoms_of_braced hbraced,
        trace_flatten_of_braced hbraced, value_collapse_congr henter]
      exact ⟨after, hrun, hpassed.trans (hgoes.trans hgoesLater), hwhole⟩
    -- no pair is left, so the tokens are expanded, and this is the point asked for
    · have hflat : ¬ HasPair atoms := fun hpair => hbraced (hpair.any_isBraced none)
      have hnil : spans slots = [] := by
        rw [hspans, spansOf_eq_nil_iff]
        exact eq_false_of_ne_true hbraced
      obtain ⟨after, hexpand, hgoes⟩ := expandAll_spec hdraft hbound heven h hflat
      have hget : (get : Drafting Store).run passed = some (passed, passed) := rfl
      rw [if_pos (List.isEmpty_iff.mpr hnil), run_next hget, run_next (run_lift h.atoms?_eq passed),
        run_next hexpand, renderAtoms_of_not_hasPair hflat, flatten_of_not_hasPair enter hflat,
        renderFlat_eq]
      refine ⟨after, rfl, ?_, _, hgoes.mem_points hpoint, rfl, rfl, hnil⟩
      rw [Traced.trace_bind, Traced.trace_pure, List.append_nil]
      exact hpassed.trans hgoes

/-- A whole formula is rendered from the empty store on, and comes to a point at which nothing is left to
be collapsed of it. -/
theorem renderIndexed_spec (formula : Text) :
    ∃ after, renderIndexed formula = some ((render formula).value, after) ∧
      Goes formula .new after (render formula).trace (groupTable formula) ∧
      ∃ point ∈ after.points, point.start = 0 ∧ point.stop = formula.length ∧
        spans point.slots = [] := by
  have hstands : Stands formula Columns.empty 0 (0 + formula.length) (slotsFrom 0 formula)
      (Atom.ofText formula) := stands_slotsFrom Columns.empty rfl
  have hlength : (slotsFrom 0 formula).length < formula.length + 1 := by
    rw [hstands.length_eq, Atom.ofText, List.length_map]
    exact Nat.lt_succ_self _
  rw [Nat.zero_add] at hstands
  exact draft_spec hlength rfl hstands

/-- **Flattening loses no source text, and no index dangles.** Rendered with a table, a formula gives
the text and the diagnostics that it is rendered as and the table of its groups. At every point the
columns of the table are of one length, every index has an entry, and the text of the sequence is the
part of the formula that it comes from; entries stay as they are from there on. At one of the points
nothing is left to be collapsed of the whole formula, and the text of the sequence is the formula. -/
theorem render_indexed (formula : Text) :
    ∃ after, renderIndexed formula = some ((render formula).value, after) ∧
      after.reports = (render formula).trace ∧
      after.columns = Columns.empty.add (groupTable formula) ∧
      (∀ point ∈ after.points, point.Sound formula ∧ point.columns.Extends after.columns) ∧
      after.points.Pairwise (fun point later => point.columns.Extends later.columns) ∧
      ∃ point ∈ after.points, point.start = 0 ∧ point.stop = formula.length ∧
        spans point.slots = [] ∧ rawText point.columns point.slots = some formula := by
  obtain ⟨after, hrun, hgoes, point, hpoint, hstart, hstop, hspans⟩ := renderIndexed_spec formula
  obtain ⟨points, hpoints, hpairwise, hsound⟩ := hgoes.points
  obtain rfl : after.points = points := hpoints
  refine ⟨after, hrun, hgoes.reports, hgoes.columns, fun point hmem => ?_, hpairwise, point, hpoint,
    hstart, hstop, hspans, ?_⟩
  · exact ⟨(hsound point hmem).1, (hsound point hmem).2.2⟩
  · rw [(hsound point hpoint).1.raw, hstart, hstop]
    simp [List.extract_eq_take_drop]

example : (renderIndexed "\x7ba\x7d\x7b\x7bb\x7d\x7d".toList).map (·.2.columns.sources)
    = some ["a".toList, "b".toList, "\x7bb\x7d".toList] := by
  decide +kernel

end WikiText.Formula
