import WikiText.Proofs.Formula.Reading

/-!
# Groups by their index

Atoms carry the source and the rendering of a group with them. Both can be kept in a table of two
columns instead, so that a sequence names a group by its index in the table. `draft` is the renderer in
that form: braces are found and cut out by position, the table grows while groups are rendered, and a
name without an entry makes it fail. It also notes every sequence that it comes to, together with the
table at that point and the part of the formula that the sequence comes from.

`Stands` relates a sequence by index to the atoms that it names and to the part of the formula that
they stand for. A pass by position cuts such a sequence where the pass over atoms does (`spans_eq`).
-/

namespace WikiText.Formula

/-! ## The table -/

/-- The groups of a formula in the order of their creation, in two columns. -/
structure Columns where
  /-- The sources of the groups, without their braces. -/
  sources : List Text
  /-- What the groups are rendered as. -/
  renderings : List Text
  deriving DecidableEq, Repr

namespace Columns

/-- The table without groups. -/
def empty : Columns := ⟨[], []⟩

/-- The table after more groups. -/
def add (columns : Columns) (entries : List GroupEntry) : Columns :=
  ⟨columns.sources ++ entries.map GroupEntry.source,
    columns.renderings ++ entries.map GroupEntry.rendered⟩

/-- Both columns have an entry for each group. -/
def Even (columns : Columns) : Prop :=
  columns.sources.length = columns.renderings.length

/-- A later table has all entries of a table, in their places. -/
structure Extends (columns later : Columns) : Prop where
  sources : columns.sources <+: later.sources
  renderings : columns.renderings <+: later.renderings

theorem add_nil (columns : Columns) : columns.add [] = columns := by
  simp [add]

/-- Entries may be added part by part. -/
theorem add_add (columns : Columns) (entries more : List GroupEntry) :
    (columns.add entries).add more = columns.add (entries ++ more) := by
  simp [add]

/-- Adding entries keeps the columns equally long. -/
theorem Even.add {columns : Columns} (h : columns.Even) (entries : List GroupEntry) :
    (columns.add entries).Even := by
  rw [Even] at h
  simp [Even, Columns.add, h]

/-- Adding entries extends the columns. -/
theorem extends_add (columns : Columns) (entries : List GroupEntry) :
    columns.Extends (columns.add entries) where
  sources := List.prefix_append _ _
  renderings := List.prefix_append _ _

theorem Extends.refl (columns : Columns) : columns.Extends columns where
  sources := List.prefix_refl _
  renderings := List.prefix_refl _

theorem Extends.trans {columns later last : Columns} (h : columns.Extends later)
    (hlater : later.Extends last) : columns.Extends last where
  sources := h.sources.trans hlater.sources
  renderings := h.renderings.trans hlater.renderings

end Columns

/-! ## Sequences by index -/

/-- What stands in a sequence: a character, or a group by its index in the table. -/
inductive Shape where
  /-- A character of the source. -/
  | char (c : Char)
  /-- A group. -/
  | group (index : ℕ)
  deriving DecidableEq, Repr

/-- An element of a sequence, and where the part of the formula begins and ends that it stands for.
Rendering does not look at the place. -/
structure Slot where
  /-- What stands there. -/
  shape : Shape
  /-- Where its part of the formula begins. -/
  start : ℕ
  /-- Where its part of the formula ends. -/
  stop : ℕ
  deriving DecidableEq, Repr

namespace Slot

/-- The source text of an element, if its group is in the table. -/
def raw? (columns : Columns) (slot : Slot) : Option Text :=
  match slot.shape with
  | .char c => some [c]
  | .group index => do return '{' :: (← columns.sources[index]?) ++ ['}']

/-- The atom that an element names, if its group is in the table. -/
def atom? (columns : Columns) (slot : Slot) : Option Atom :=
  match slot.shape with
  | .char c => some (.char c)
  | .group index => do return .group (← columns.sources[index]?) (← columns.renderings[index]?)

/-- Whether an element is a given character. -/
def isChar (c : Char) (slot : Slot) : Bool :=
  slot.shape = .char c

end Slot

/-- The source text of a sequence, if its groups are in the table. -/
def rawText (columns : Columns) : List Slot → Option Text
  | [] => some []
  | slot :: rest => do return (← slot.raw? columns) ++ (← rawText columns rest)

/-- The atoms that a sequence names, if its groups are in the table. -/
def atoms? (columns : Columns) : List Slot → Option (List Atom)
  | [] => some []
  | slot :: rest => do return (← slot.atom? columns) :: (← atoms? columns rest)

/-- The sequence of the characters of a text that begins at some place. -/
def slotsFrom (start : ℕ) : Text → List Slot
  | [] => []
  | c :: rest => ⟨.char c, start, start + 1⟩ :: slotsFrom (start + 1) rest

/-! ## The renderer -/

/-- A point of the rendering of a formula: a sequence that is to be collapsed or cut into tokens, the
table then, and the part of the formula that the sequence comes from. -/
structure Point where
  /-- The table. -/
  columns : Columns
  /-- The sequence. -/
  slots : List Slot
  /-- Where its part of the formula begins. -/
  start : ℕ
  /-- Where its part of the formula ends. -/
  stop : ℕ

/-- What changes while a formula is rendered, with the points that were passed. -/
structure Store where
  /-- The table. -/
  columns : Columns
  /-- The points, first one first. -/
  points : List Point
  /-- The diagnostics, first one first. -/
  reports : List Diagnostic

/-- The store in which rendering begins. -/
def Store.new : Store := ⟨.empty, [], []⟩

/-- A computation that changes the store, and fails where a group or a bracket is missing. -/
abbrev Drafting := StateT Store Option

/-- Passes a point. -/
def pass (start stop : ℕ) (slots : List Slot) : Drafting Unit :=
  modify fun store => { store with points := store.points ++ [⟨store.columns, slots, start, stop⟩] }

/-- Puts a group into the table, and gives its index. -/
def push (source rendered : Text) : Drafting ℕ :=
  modifyGet fun store =>
    (store.columns.renderings.length, { store with columns := store.columns.add [⟨source, rendered⟩] })

/-- Reports diagnostics. -/
def report (diagnostics : List Diagnostic) : Drafting Unit :=
  modify fun store => { store with reports := store.reports ++ diagnostics }

/-- The positions of innermost pairs of braces with something between them, from a position on.
`opened` is the position of the last opening brace that may still open such a pair. -/
def spansFrom (position : ℕ) (opened : Option ℕ) : List Slot → List (ℕ × ℕ)
  | [] => []
  | slot :: rest =>
    if slot.shape = .char '{' then spansFrom (position + 1) (some position) rest
    else if slot.shape = .char '}' then
      match opened with
      | some opening =>
        if opening + 1 < position then (opening, position) :: spansFrom (position + 1) none rest
        else spansFrom (position + 1) none rest
      | none => spansFrom (position + 1) none rest
    else spansFrom (position + 1) opened rest

/-- The positions of innermost pairs of braces with something between them. -/
def spans (slots : List Slot) : List (ℕ × ℕ) :=
  spansFrom 0 none slots

section

variable (draft : ℕ → ℕ → List Slot → Drafting Text)

/-- Makes a group of a pair of braces and what is between them. -/
def group (opening : Slot) (inner : List Slot) (closing : Slot) : Drafting Slot := do
  let source ← rawText (← get).columns inner
  let rendered ← draft opening.stop closing.start inner
  let index ← push source rendered.trim
  return ⟨.group index, opening.start, closing.stop⟩

/-- The part of a sequence from position `last` on, with groups in the place of the given pairs of
braces. -/
def splice (slots : List Slot) (last : ℕ) : List (ℕ × ℕ) → Drafting (List Slot)
  | [] => return slots.drop last
  | (opening, closing) :: rest => do
    let made ← group draft (← slots[opening]?) ((slots.take closing).drop (opening + 1))
      (← slots[closing]?)
    let later ← splice slots (closing + 1) rest
    return (slots.take opening).drop last ++ made :: later

/-- What stands between the first opening bracket and the next closing one, and its place. -/
def bracketed (slots : List Slot) : Option (ℕ × ℕ × List Slot) := do
  let opening :: inside := slots.dropWhile (!·.isChar '[') | none
  let closing :: _ := inside.dropWhile (!·.isChar ']') | none
  return (opening.stop, closing.start, inside.takeWhile (!·.isChar ']'))

/-- The text of the degree of a token that is read from the front of a sequence. -/
def degreeText (token : Token) (slots : List Slot) : Drafting Text :=
  match token.degree? with
  | none => pure []
  | some _ => do
    let (start, stop, inner) ← bracketed slots
    draft start stop inner

/-- The text of a token that is read from the front of a sequence. -/
def expand (token : Token) (slots : List Slot) : Drafting Text := do
  let degree ← degreeText draft token slots
  let result := token.render fun _ => pure degree
  report result.trace
  return result.value

/-- The texts of tokens. -/
def expandAll : List (Token × List Slot) → Drafting (List Text)
  | [] => return []
  | (token, slots) :: rest => do
    let part ← expand draft token slots
    let parts ← expandAll rest
    return part :: parts

end

/-- The tokens of a sequence of atoms, each with the elements from it on. -/
def Token.spread (slots : List Slot) (atoms : List Atom) : List (Token × List Slot) :=
  match _h : scanner.run atoms with
  | some (token, rest) => (token, slots) :: spread (slots.drop (atoms.length - rest.length)) rest
  | none => []
termination_by atoms.length
decreasing_by exact consumes_scanner _ _ _ _h

/-- Renders a sequence: pairs of braces become groups until none is left that could, then tokens are
rendered. Sequences between braces and in brackets are shorter, so the fuel bounds their depth. -/
def draft : ℕ → ℕ → ℕ → List Slot → Drafting Text
  | 0, _, _, _ => failure
  | fuel + 1, start, stop, slots => do
    pass start stop slots
    if (spans slots).isEmpty then
      let atoms ← atoms? (← get).columns slots
      let parts ← expandAll (draft fuel) (Token.spread slots atoms)
      return joinParts none parts
    else
      let collapsed ← splice (draft fuel) slots 0 (spans slots)
      draft fuel start stop collapsed

/-- Renders a formula with a table of groups. -/
def renderIndexed (formula : Text) : Option (Text × Store) :=
  (draft (formula.length + 1) 0 formula.length (slotsFrom 0 formula)).run .new

/-! ## What a sequence stands for -/

/-- A sequence between two places of a formula names atoms: each element has an entry if it needs one,
and is the part of the formula at its place; elements follow each other without a gap. -/
inductive Stands (formula : Text) (columns : Columns) : ℕ → ℕ → List Slot → List Atom → Prop
  | nil (place : ℕ) : Stands formula columns place place [] []
  | cons {slot : Slot} {atom : Atom} {stop : ℕ} {slots : List Slot} {atoms : List Atom}
    (named : slot.atom? columns = some atom) (le : slot.start ≤ slot.stop)
    (source : atom.source = formula.extract slot.start slot.stop)
    (rest : Stands formula columns slot.stop stop slots atoms) :
    Stands formula columns slot.start stop (slot :: slots) (atom :: atoms)

variable {formula : Text} {columns later : Columns} {start middle stop : ℕ} {slot : Slot}
  {slots others : List Slot} {atom : Atom} {atoms more : List Atom}

/-- Stretches next to each other make one stretch. -/
theorem extract_append_extract {α : Type} (items : List α) (h : start ≤ middle)
    (h' : middle ≤ stop) :
    items.extract start middle ++ items.extract middle stop = items.extract start stop := by
  obtain ⟨front, rfl⟩ := Nat.exists_eq_add_of_le h
  obtain ⟨back, rfl⟩ := Nat.exists_eq_add_of_le h'
  have hback : start + front + back - start = front + back := by omega
  simp only [List.extract_eq_take_drop, Nat.add_sub_cancel_left, hback]
  rw [List.take_add, List.drop_drop]

/-- The raw text of a slot is the source of its atom. -/
theorem Slot.raw?_of_atom? (h : slot.atom? columns = some atom) :
    slot.raw? columns = some atom.source := by
  unfold atom? at h
  unfold raw?
  split at h
  · cases h
    rfl
  · next index _ =>
    obtain ⟨source, hsource, hrendered⟩ := Option.bind_eq_some_iff.mp h
    obtain ⟨rendered, -, heq⟩ := Option.bind_eq_some_iff.mp hrendered
    cases heq
    rw [hsource]
    rfl

/-- A slot has the shape of a character exactly if its atom is that character. -/
theorem Slot.shape_eq_char_iff (h : slot.atom? columns = some atom) (c : Char) :
    slot.shape = .char c ↔ atom = .char c := by
  unfold atom? at h
  split at h
  · next d hshape =>
    cases h
    rw [hshape]
    constructor <;> rintro ⟨⟩ <;> rfl
  · next index hshape =>
    obtain ⟨source, -, hrendered⟩ := Option.bind_eq_some_iff.mp h
    obtain ⟨rendered, -, heq⟩ := Option.bind_eq_some_iff.mp hrendered
    cases heq
    rw [hshape]
    constructor <;> rintro ⟨⟩

/-- An entry of a list is one of each list that begins with it, at the same place. -/
theorem getElem?_of_front {α : Type} {items later : List α} {index : ℕ} {item : α}
    (h : items <+: later) (hitem : items[index]? = some item) : later[index]? = some item := by
  obtain ⟨more, rfl⟩ := h
  rw [List.getElem?_append_left (List.getElem?_eq_some_iff.mp hitem).1, hitem]

/-- An entry is the same in a later table. -/
theorem Slot.atom?_mono (h : slot.atom? columns = some atom) (hlater : columns.Extends later) :
    slot.atom? later = some atom := by
  unfold atom? at h ⊢
  split at h
  · exact h
  · next index _ =>
    obtain ⟨source, hsource, hrendered⟩ := Option.bind_eq_some_iff.mp h
    obtain ⟨rendered, hrendered, heq⟩ := Option.bind_eq_some_iff.mp hrendered
    rw [getElem?_of_front hlater.sources hsource, getElem?_of_front hlater.renderings hrendered]
    exact heq

/-- The first slot has the first atom, and the others have the others. -/
theorem exists_of_atoms?_cons (h : atoms? columns slots = some (atom :: atoms)) :
    ∃ slot rest, slots = slot :: rest ∧ slot.atom? columns = some atom ∧
      atoms? columns rest = some atoms := by
  cases slots with
  | nil => cases h
  | cons slot rest =>
    obtain ⟨first, hnamed, hothers⟩ := Option.bind_eq_some_iff.mp h
    obtain ⟨others, hrest, heq⟩ := Option.bind_eq_some_iff.mp hothers
    cases heq
    exact ⟨slot, rest, rfl, hnamed, hrest⟩

/-- Only no slots have no atoms. -/
theorem eq_nil_of_atoms? (h : atoms? columns slots = some []) : slots = [] := by
  cases slots with
  | nil => rfl
  | cons slot rest =>
    obtain ⟨first, -, hothers⟩ := Option.bind_eq_some_iff.mp h
    obtain ⟨others, -, heq⟩ := Option.bind_eq_some_iff.mp hothers
    cases heq

/-- The text of a sequence, by the entries of its groups, is the source of the atoms that it names. -/
theorem rawText_of_atoms? (h : atoms? columns slots = some atoms) :
    rawText columns slots = some (Atom.sourceOf atoms) := by
  induction atoms generalizing slots with
  | nil =>
    rw [eq_nil_of_atoms? h]
    rfl
  | cons atom atoms ih =>
    obtain ⟨slot, rest, rfl, hnamed, hrest⟩ := exists_of_atoms?_cons h
    rw [rawText, Slot.raw?_of_atom? hnamed, ih hrest]
    rfl

namespace Stands

/-- A stretch ends no earlier than it begins. -/
theorem le (h : Stands formula columns start stop slots atoms) : start ≤ stop := by
  induction h with
  | nil place => exact Nat.le_refl place
  | cons named le source rest ih => exact le.trans ih

/-- There are as many slots as atoms. -/
theorem length_eq (h : Stands formula columns start stop slots atoms) :
    slots.length = atoms.length := by
  induction h with
  | nil place => rfl
  | cons named le source rest ih => exact congrArg (· + 1) ih

/-- Slots stand for their atoms in later columns too. -/
theorem mono (h : Stands formula columns start stop slots atoms) (hlater : columns.Extends later) :
    Stands formula later start stop slots atoms := by
  induction h with
  | nil place => exact .nil place
  | cons named le source rest ih => exact .cons (Slot.atom?_mono named hlater) le source ih

theorem append (h : Stands formula columns start middle slots atoms)
    (h' : Stands formula columns middle stop others more) :
    Stands formula columns start stop (slots ++ others) (atoms ++ more) := by
  induction h with
  | nil place => exact h'
  | cons named le source rest ih => exact .cons named le source (ih h')

/-- A sequence that names two sequences of atoms one after the other consists of what names them. -/
theorem exists_of_append (h : Stands formula columns start stop slots (atoms ++ more)) :
    ∃ front back middle, slots = front ++ back ∧
      Stands formula columns start middle front atoms ∧
      Stands formula columns middle stop back more := by
  induction atoms generalizing start slots with
  | nil => exact ⟨[], slots, start, rfl, .nil start, h⟩
  | cons atom atoms ih =>
    cases h with
    | cons named le source rest =>
      obtain ⟨front, back, middle, rfl, hfront, hback⟩ := ih rest
      exact ⟨_ :: front, back, middle, rfl, .cons named le source hfront, hback⟩

/-- The first slot stands for the first atom, and the others for the rest of the stretch. -/
theorem exists_of_cons (h : Stands formula columns start stop slots (atom :: atoms)) :
    ∃ slot rest, slots = slot :: rest ∧ slot.start = start ∧ slot.atom? columns = some atom ∧
      slot.start ≤ slot.stop ∧ atom.source = formula.extract slot.start slot.stop ∧
      Stands formula columns slot.stop stop rest atoms := by
  cases h with
  | cons named le source rest => exact ⟨_, _, rfl, rfl, named, le, source, rest⟩

/-- The first element of a sequence, and what stands behind it. -/
theorem uncons (h : Stands formula columns start stop slots (atom :: atoms)) :
    ∃ slot rest, slots = slot :: rest ∧ slot.start = start ∧
      Stands formula columns slot.start slot.stop [slot] [atom] ∧
      Stands formula columns slot.stop stop rest atoms := by
  obtain ⟨slot, rest, hslots, hstart, named, le, source, hrest⟩ := h.exists_of_cons
  exact ⟨slot, rest, hslots, hstart, .cons named le source (.nil _), hrest⟩

theorem eq_of_nil (h : Stands formula columns start stop [] []) : start = stop := by
  cases h
  rfl

/-- A single slot stands for all of its stretch. -/
theorem singleton (h : Stands formula columns start stop [slot] [atom]) :
    slot.start = start ∧ slot.stop = stop := by
  obtain ⟨_, _, heq, hstart, -, -, -, hrest⟩ := h.exists_of_cons
  cases heq
  exact ⟨hstart, hrest.eq_of_nil⟩

/-- The atoms that slots stand for are those that are looked up. -/
theorem atoms?_eq (h : Stands formula columns start stop slots atoms) :
    atoms? columns slots = some atoms := by
  induction h with
  | nil place => rfl
  | cons named le source rest ih => rw [atoms?, named, ih]; rfl

/-- The atoms have the source that they stand for. -/
theorem sourceOf_eq (h : Stands formula columns start stop slots atoms) :
    Atom.sourceOf atoms = formula.extract start stop := by
  induction h with
  | nil place => simp
  | cons named le source rest ih =>
    rw [Atom.sourceOf_cons, source, ih, extract_append_extract formula le rest.le]

/-- The text of the sequence, by the entries of its groups, is the same. -/
theorem rawText_eq (h : Stands formula columns start stop slots atoms) :
    rawText columns slots = some (formula.extract start stop) := by
  rw [← h.sourceOf_eq]
  exact rawText_of_atoms? h.atoms?_eq

/-- No index of the sequence is without an entry. -/
theorem index_lt (h : Stands formula columns start stop slots atoms) :
    ∀ slot ∈ slots, ∀ index, slot.shape = .group index → index < columns.sources.length := by
  induction h with
  | nil place => intro slot hslot; cases hslot
  | cons named le source rest ih =>
    intro slot hslot index hindex
    rcases List.mem_cons.mp hslot with rfl | hslot
    · rw [Slot.atom?, hindex] at named
      obtain ⟨found, hfound, -⟩ := Option.bind_eq_some_iff.mp named
      exact (List.getElem?_eq_some_iff.mp hfound).1
    · exact ih slot hslot index hindex

end Stands

/-- The characters of a text stand for it. -/
theorem stands_slotsFrom (columns : Columns) {text : Text} (h : formula.drop start = text) :
    Stands formula columns start (start + text.length) (slotsFrom start text) (Atom.ofText text) := by
  induction text generalizing start with
  | nil => exact .nil start
  | cons c rest ih =>
    have hrest : formula.drop (start + 1) = rest := by
      rw [← List.drop_drop, h, List.drop_one, List.tail_cons]
    have hlength : start + (c :: rest).length = start + 1 + rest.length := by
      rw [List.length_cons]; omega
    rw [hlength]
    have hsource : (Atom.char c).source = formula.extract start (start + 1) := by
      rw [List.extract_eq_take_drop, h]
      simp [Atom.source]
    exact @Stands.cons formula columns ⟨.char c, start, start + 1⟩ _ _ _ _ rfl (Nat.le_succ start)
      hsource (ih hrest)

/-! ## Cutting by position -/

/-- Where the pairs of braces stand that are cut out of a sequence, if the segments begin at a
position. -/
def spansOf (position : ℕ) : List Segment → List (ℕ × ℕ)
  | [] => []
  | .loose _ :: rest => spansOf (position + 1) rest
  | .braced content :: rest =>
    (position, position + content.length + 1) :: spansOf (position + content.length + 2) rest

/-- Loose atoms move the spans behind them. -/
theorem spansOf_map_loose (position : ℕ) (atoms : List Atom) (parts : List Segment) :
    spansOf position (atoms.map .loose ++ parts) = spansOf (position + atoms.length) parts := by
  induction atoms generalizing position with
  | nil => rfl
  | cons atom atoms ih =>
    rw [List.map_cons, List.cons_append, spansOf, ih, List.length_cons, Nat.add_right_comm,
      Nat.add_assoc]

/-- Atoms that are given back for a brace that is not closed move the spans behind them. -/
theorem spansOf_unopened (position : ℕ) (held : Option (List Atom)) (parts : List Segment) :
    spansOf position (Segment.unopened held ++ parts)
      = spansOf (position + heldLength held) parts := by
  cases held with
  | none => rfl
  | some others =>
    rw [Segment.unopened, List.cons_append, spansOf, spansOf_map_loose, List.length_reverse,
      heldLength, Nat.add_right_comm, Nat.add_assoc]

/-- There are no spans exactly if nothing stands in braces. -/
theorem spansOf_eq_nil_iff (position : ℕ) (parts : List Segment) :
    spansOf position parts = [] ↔ parts.any Segment.isBraced = false := by
  induction parts generalizing position with
  | nil => simp [spansOf]
  | cons part parts ih =>
    cases part with
    | loose atom => simpa [spansOf, Segment.isBraced] using ih (position + 1)
    | braced content => simp [spansOf, Segment.isBraced]

section

variable {position : ℕ} {opened : Option ℕ}

/-- An opening brace takes the place of one before it. -/
theorem spansFrom_open (h : slot.shape = .char '{') :
    spansFrom position opened (slot :: slots) = spansFrom (position + 1) (some position) slots := by
  rw [spansFrom.eq_def]
  exact if_pos h

/-- A closing brace ends a span if one is open and not empty. -/
theorem spansFrom_close (h : slot.shape = .char '}') :
    spansFrom position opened (slot :: slots)
      = (opened.toList.filter (· + 1 < position)).map (·, position)
        ++ spansFrom (position + 1) none slots := by
  rw [spansFrom.eq_def]
  dsimp only
  rw [if_neg (by simp [h]), if_pos h]
  cases opened with
  | none => rfl
  | some opening =>
    by_cases hbetween : opening + 1 < position <;> simp [hbetween]

/-- Any other slot changes nothing. -/
theorem spansFrom_other (hopen : slot.shape ≠ .char '{') (hclose : slot.shape ≠ .char '}') :
    spansFrom position opened (slot :: slots) = spansFrom (position + 1) opened slots := by
  rw [spansFrom.eq_def]
  exact (if_neg hopen).trans (if_neg hclose)

end

/-- Braces are found by position where a pass over atoms cuts. `held` are the atoms since the brace at
`position` that may still open a pair. -/
theorem spansFrom_eq {held : Option (List Atom)} {position : ℕ}
    (h : atoms? columns slots = some atoms) :
    spansFrom (position + heldLength held) (held.map fun _ => position) slots
      = spansOf position (segmentsFrom held atoms) := by
  fun_induction segmentsFrom held atoms generalizing position slots with
  | case1 held =>
    obtain rfl := eq_nil_of_atoms? h
    have hnil := spansOf_unopened position held []
    rw [List.append_nil] at hnil
    rw [hnil]
    rfl
  | case2 held rest ih =>
    obtain ⟨slot, slots, rfl, hnamed, hrest⟩ := exists_of_atoms?_cons h
    rw [spansFrom_open ((Slot.shape_eq_char_iff hnamed '{').mpr rfl), spansOf_unopened, ← ih hrest]
    rfl
  | case3 rest last others ih =>
    obtain ⟨slot, slots, rfl, hnamed, hrest⟩ := exists_of_atoms?_cons h
    -- the pair is as far apart as the atoms that are held back
    have hclosing : position + (last :: others).reverse.length + 1
        = position + heldLength (some (last :: others)) := by
      rw [List.length_reverse, heldLength, Nat.add_assoc]
    have hbetween : position + 1 < position + heldLength (some (last :: others)) := by
      rw [heldLength, List.length_cons]
      omega
    have hpair : ((some position).toList.filter
        (· + 1 < position + heldLength (some (last :: others)))) = [position] := by
      simp [hbetween]
    rw [spansFrom_close ((Slot.shape_eq_char_iff hnamed '}').mpr rfl), Option.map_some, hpair,
      spansOf, hclosing, ← ih hrest, List.length_reverse]
    rfl
  | case4 held rest hempty ih =>
    obtain ⟨slot, slots, rfl, hnamed, hrest⟩ := exists_of_atoms?_cons h
    have hnone : ((held.map fun _ => position).toList.filter
        (· + 1 < position + heldLength held)) = [] := by
      rcases held with _ | _ | ⟨last, others⟩
      · rfl
      · simp [heldLength]
      · exact absurd rfl (hempty last others)
    rw [spansFrom_close ((Slot.shape_eq_char_iff hnamed '}').mpr rfl), hnone, spansOf_unopened,
      spansOf, ← ih hrest]
    rfl
  | case5 atom rest hopen hclose others ih =>
    obtain ⟨slot, slots, rfl, hnamed, hrest⟩ := exists_of_atoms?_cons h
    rw [spansFrom_other (mt (Slot.shape_eq_char_iff hnamed _).mp hopen)
      (mt (Slot.shape_eq_char_iff hnamed _).mp hclose), ← ih hrest]
    rfl
  | case6 atom rest hopen hclose ih =>
    obtain ⟨slot, slots, rfl, hnamed, hrest⟩ := exists_of_atoms?_cons h
    rw [spansFrom_other (mt (Slot.shape_eq_char_iff hnamed _).mp hopen)
      (mt (Slot.shape_eq_char_iff hnamed _).mp hclose), spansOf, ← ih hrest]
    rfl

/-- What is to be collapsed is found by position where a pass over atoms cuts. -/
theorem spans_eq (h : atoms? columns slots = some atoms) :
    spans slots = spansOf 0 (segments atoms) := by
  show spansFrom (0 + heldLength none) (Option.map (fun _ : List Atom => 0) none) slots = _
  exact spansFrom_eq h

end WikiText.Formula
