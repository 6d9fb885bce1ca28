import WikiText.Proofs.Formula.Diagnostics
import WikiText.Proofs.Formula.Pairs

/-!
# Which pairs of braces become groups

The passes that flatten a formula keep no stack: each one knows the last open brace only, passes over
empty pairs and works on one level. They agree with the matching of braces by a stack all the same. A
pair becomes a group if and only if something stands in it and each brace in it belongs to a pair that
does; the other braces stay as they are (`bracePairs_grouped`).

A group that stands at some stage was made of a pair of braces at an earlier one (`exists_origin`), and
between these stood characters and groups only, so that every brace of its source is one of a group
(`exists_grouped`). The braces of a pair that did not become a group stand as characters to the end
(`standsAt_flattened_iff`), and then some brace must stand between them, for no innermost pair is left.
-/

namespace WikiText.Formula

open Atom (sourceOf)

/-! ## Atoms by place -/

/-- An atom stands in a sequence, and the source of what is before it is as long as the place says. -/
def StandsAt (atoms : List Atom) (place : ℕ) (atom : Atom) : Prop :=
  ∃ front back, atoms = front ++ atom :: back ∧ (sourceOf front).length = place

section

variable {atoms content : List Atom} {atom other : Atom} {place place' : ℕ} {text : Text}

@[simp]
theorem Atom.length_source_char (c : Char) : (char c).source.length = 1 := rfl

@[simp]
theorem Atom.length_source_group (source rendered : Text) :
    (group source rendered).source.length = source.length + 2 := by
  simp [Atom.source]

/-- No atom is empty. -/
theorem Atom.length_source_pos (atom : Atom) : 0 < atom.source.length := by
  cases atom <;> simp

/-- The lengths of the parts of a sequence add up. -/
theorem Atom.length_sourceOf_append_cons (front back : List Atom) (atom : Atom) :
    (sourceOf (front ++ atom :: back)).length
      = (sourceOf front).length + atom.source.length + (sourceOf back).length := by
  rw [sourceOf_append, sourceOf_cons, List.length_append, List.length_append, Nat.add_assoc]

/-- Each character of the source of a sequence is one of an atom. -/
theorem exists_standsAt (h : place < (sourceOf atoms).length) :
    ∃ start atom, StandsAt atoms start atom ∧ start ≤ place ∧ place < start + atom.source.length := by
  induction atoms generalizing place with
  | nil => simp at h
  | cons atom atoms ih =>
    rw [Atom.sourceOf_cons, List.length_append] at h
    by_cases hplace : place < atom.source.length
    · exact ⟨0, atom, ⟨[], atoms, rfl, rfl⟩, Nat.zero_le _, by omega⟩
    · have hrest : place - atom.source.length < (sourceOf atoms).length := by omega
      obtain ⟨start, found, ⟨front, back, rfl, hfront⟩, hle, hlt⟩ := ih hrest
      refine ⟨atom.source.length + start, found, ⟨atom :: front, back, rfl, ?_⟩, by omega, by omega⟩
      rw [Atom.sourceOf_cons, List.length_append, hfront]

/-- Two atoms of a sequence are one atom, or the one that stands first ends before the other. -/
theorem StandsAt.eq_or_between (h : StandsAt atoms place atom) (h' : StandsAt atoms place' other)
    (hle : place ≤ place') : place = place' ∧ atom = other ∨
      ∃ front inner back, atoms = front ++ atom :: (inner ++ other :: back) ∧
        (sourceOf front).length = place ∧
        place' = place + atom.source.length + (sourceOf inner).length := by
  obtain ⟨front, back, rfl, rfl⟩ := h
  obtain ⟨front', back', heq, rfl⟩ := h'
  have hpositive := atom.length_source_pos
  rcases List.append_eq_append_iff.mp heq with ⟨more, rfl, hmore⟩ | ⟨more, rfl, hmore⟩
  · cases more with
    | nil =>
      obtain ⟨rfl, -⟩ := List.cons.inj hmore
      simp
    | cons first more =>
      obtain ⟨rfl, rfl⟩ := List.cons.inj hmore
      refine .inr ⟨front, more, back', by simp, rfl, ?_⟩
      rw [Atom.length_sourceOf_append_cons]
  · cases more with
    | nil =>
      obtain ⟨rfl, -⟩ := List.cons.inj hmore
      simp
    | cons first more =>
      -- the other atom would stand first
      obtain ⟨rfl, rfl⟩ := List.cons.inj hmore
      have hsecond := other.length_source_pos
      rw [Atom.length_sourceOf_append_cons] at hle
      omega

/-- Atoms that have a character of the source in common are one atom. -/
theorem StandsAt.eq_of_covers (h : StandsAt atoms place atom) (h' : StandsAt atoms place' other)
    (hlt : place < place' + other.source.length) (hlt' : place' < place + atom.source.length) :
    atom = other := by
  rcases Nat.le_total place place' with hle | hle
  · rcases h.eq_or_between h' hle with ⟨-, heq⟩ | ⟨front, inner, back, -, -, hplace⟩
    · exact heq
    · omega
  · rcases h'.eq_or_between h hle with ⟨-, heq⟩ | ⟨front, inner, back, -, -, hplace⟩
    · exact heq.symm
    · omega

/-- An atom that stands at a place is in the sequence. -/
theorem StandsAt.mem (h : StandsAt atoms place atom) : atom ∈ atoms := by
  obtain ⟨front, back, rfl, -⟩ := h
  exact List.mem_append_right front List.mem_cons_self

/-- What stands behind an atom stands behind its source. -/
theorem StandsAt.behind (h : StandsAt content place atom) (front back : List Atom) (other : Atom) :
    StandsAt (front ++ other :: (content ++ back))
      ((sourceOf front).length + other.source.length + place) atom := by
  obtain ⟨before, after, rfl, rfl⟩ := h
  refine ⟨front ++ other :: before, after ++ back, by simp, ?_⟩
  rw [Atom.length_sourceOf_append_cons]

/-- The source of the atom begins at its place. -/
theorem StandsAt.exists_source (h : StandsAt atoms place atom) :
    ∃ front back, sourceOf atoms = front ++ (atom.source ++ back) ∧ front.length = place := by
  obtain ⟨front, back, rfl, hplace⟩ := h
  exact ⟨sourceOf front, sourceOf back, by rw [Atom.sourceOf_append, Atom.sourceOf_cons], hplace⟩

/-- A character stands at its place in the formula. -/
theorem StandsAt.getElem? {c : Char} (h : StandsAt atoms place (.char c)) :
    (sourceOf atoms)[place]? = some c := by
  obtain ⟨front, back, hsource, rfl⟩ := h.exists_source
  rw [hsource, List.getElem?_append_right le_rfl, Nat.sub_self]
  rfl

end

/-! ## Stages -/

/-- A sequence after one pass. -/
def afterPass (atoms : List Atom) : List Atom :=
  (collapse renderFlat (segments atoms)).value

/-- A formula after some number of passes. -/
def stage (formula : Text) (passes : ℕ) : List Atom :=
  afterPass^[passes] (Atom.ofText formula)

/-- A pass makes groups of the braced segments and keeps the rest. -/
theorem afterPass_eq (atoms : List Atom) :
    afterPass atoms = (segments atoms).map (Segment.become flatText) :=
  value_collapse (fun _ => rfl) _

/-- Each stage is what a pass leaves of the one before it. -/
theorem stage_succ (formula : Text) (passes : ℕ) :
    stage formula (passes + 1) = afterPass (stage formula passes) :=
  Function.iterate_succ_apply' _ _ _

/-- Segments put no condition on the atoms. -/
theorem all_segments (atoms : List Atom) : ∀ part ∈ segments atoms, part.All fun _ => True :=
  all_segmentsFrom (fun _ => trivial) none atoms (by simp) fun _ _ => trivial

/-- A pass makes groups of pairs of braces only, each of two braces. -/
theorem countP_become {parts : List Segment} (h : ∀ part ∈ parts, part.All fun _ => True) :
    (parts.map (Segment.become flatText)).countP Atom.isBrace + 2 * parts.countP Segment.isBraced
      = (parts.flatMap Segment.atoms).countP Atom.isBrace := by
  induction parts with
  | nil => rfl
  | cons part parts ih =>
    have ih := ih fun other hother => h other (List.mem_cons_of_mem _ hother)
    rw [List.map_cons, List.countP_cons, List.countP_cons, List.flatMap_cons, List.countP_append, ← ih]
    cases part with
    | loose atom =>
      have hatom : (Segment.loose atom).become flatText = atom := rfl
      rw [hatom, Segment.isBraced, Segment.atoms, List.countP_singleton, if_neg Bool.false_ne_true]
      omega
    | braced content =>
      have hplain : content.countP Atom.isBrace = 0 := by
        rw [List.countP_eq_zero]
        intro atom hatom
        simp [((h _ List.mem_cons_self).2 atom hatom).2]
      have hpair : (Segment.braced content).atoms.countP Atom.isBrace = 2 := by
        rw [Segment.atoms, List.countP_append, List.countP_cons, hplain]
        rfl
      have hgroup : ((Segment.braced content).become flatText).isBrace = false := rfl
      rw [hpair, hgroup, Segment.isBraced]
      simp only [Bool.false_eq_true, if_false, if_true]
      omega

/-- A pass that finds a pair of braces removes two braces at least. -/
theorem countP_afterPass_add_two_le {atoms : List Atom}
    (h : (segments atoms).any Segment.isBraced = true) :
    (afterPass atoms).countP Atom.isBrace + 2 ≤ atoms.countP Atom.isBrace := by
  have hcount := countP_become (all_segments atoms)
  rw [flatMap_segments, ← afterPass_eq] at hcount
  have hfound : 0 < (segments atoms).countP Segment.isBraced :=
    List.countP_pos_iff.mpr (List.any_eq_true.mp h)
  omega

/-- A pass that finds none changes nothing. -/
theorem afterPass_of_not_hasPair {atoms : List Atom} (h : ¬ HasPair atoms) : afterPass atoms = atoms := by
  have hloose : ∀ part ∈ segments atoms, [part.become flatText] = part.atoms := by
    intro part hpart
    cases part with
    | loose atom => rfl
    | braced content =>
      have hany : (segments atoms).any Segment.isBraced = true :=
        List.any_eq_true.mpr ⟨_, hpart, rfl⟩
      exact absurd (by simpa [heldAtoms] using hasPair_of_any_isBraced none atoms (by simp) hany) h
  calc afterPass atoms
      = (segments atoms).flatMap fun part => [part.become flatText] := by
        rw [afterPass_eq, List.map_eq_flatMap]
    _ = (segments atoms).flatMap Segment.atoms := List.flatMap_congr hloose
    _ = atoms := flatMap_segments atoms

/-- The passes end, and all but the last one remove braces. -/
theorem exists_iterate_eq_flatten (atoms : List Atom) :
    ∃ last, afterPass^[last] atoms = (flatten renderFlat atoms).value ∧
      ∀ passes < last, (afterPass^[passes + 1] atoms).countP Atom.isBrace + 2
        ≤ (afterPass^[passes] atoms).countP Atom.isBrace := by
  fun_induction flatten renderFlat atoms with
  | case1 atoms parts hbraced pass flat ih =>
    obtain ⟨last, hlast, hless⟩ := ih
    refine ⟨last + 1, hlast, fun passes hpasses => ?_⟩
    cases passes with
    | zero => exact countP_afterPass_add_two_le hbraced
    | succ passes => exact hless passes (by omega)
  | case2 atoms parts hbraced => exact ⟨0, rfl, fun passes hpasses => absurd hpasses (by omega)⟩

section

variable {formula : Text} {passes place : ℕ}

/-- The source of every stage is the formula. -/
theorem sourceOf_stage (formula : Text) (passes : ℕ) : sourceOf (stage formula passes) = formula := by
  induction passes with
  | zero => exact Atom.sourceOf_ofText formula
  | succ passes ih => rw [stage_succ, afterPass_eq, sourceOf_map_become, flatMap_segments, ih]

/-- In every group of a stage the braces are balanced. -/
theorem isBalanced_of_mem_stage {atom : Atom} (h : atom ∈ stage formula passes) :
    atom.IsBalanced := by
  induction passes generalizing atom with
  | zero =>
    obtain ⟨c, -, rfl⟩ := List.mem_map.mp h
    trivial
  | succ passes ih =>
    rw [stage_succ, afterPass_eq] at h
    obtain ⟨part, hpart, rfl⟩ := List.mem_map.mp h
    have hall := all_segmentsFrom (fun _ => trivial) none _ (by simp) (fun a ha => ih ha) part hpart
    cases part with
    | loose atom => exact hall
    | braced content => exact balanced_sourceOf hall.2

/-- What stands after a pass stood before it, or is a group of what stood between two braces. -/
theorem StandsAt.of_afterPass {atoms : List Atom} {atom : Atom}
    (h : StandsAt (afterPass atoms) place atom) :
    StandsAt atoms place atom ∨ ∃ front content back, atom = groupOf flatText content ∧
      atoms = front ++ .char '{' :: (content ++ .char '}' :: back) ∧
      (sourceOf front).length = place ∧ content ≠ [] ∧ ∀ a ∈ content, a.isBrace = false := by
  obtain ⟨front, back, heq, rfl⟩ := h
  rw [afterPass_eq] at heq
  obtain ⟨before, rest, hparts, rfl, hrest⟩ := List.map_eq_append_iff.mp heq
  obtain ⟨part, after, rfl, hpart, -⟩ := List.map_eq_cons_iff.mp hrest
  have hatoms := flatMap_segments atoms
  rw [hparts, List.flatMap_append, List.flatMap_cons] at hatoms
  rw [sourceOf_map_become]
  -- a loose part was there before the pass, a braced one is the group the pass made
  cases part with
  | loose other =>
    obtain rfl : other = atom := hpart
    exact .inl ⟨_, _, hatoms.symm, rfl⟩
  | braced content =>
    have hall := all_segments atoms (.braced content) (by simp [hparts])
    refine .inr ⟨_, content, after.flatMap Segment.atoms, hpart.symm, ?_, rfl, hall.1,
      fun a ha => (hall.2 a ha).2⟩
    rw [← hatoms]
    simp [Segment.atoms]

/-- A character that stands at some stage stood there before. -/
theorem StandsAt.of_le {c : Char} {earlier : ℕ} (h : StandsAt (stage formula passes) place (.char c))
    (hle : earlier ≤ passes) : StandsAt (stage formula earlier) place (.char c) := by
  induction hle with
  | refl => exact h
  | step hle ih =>
    rw [stage_succ] at h
    rcases h.of_afterPass with hbefore | ⟨front, content, back, hgroup, -⟩
    · exact ih hbefore
    · cases hgroup

/-- A group was made at an earlier stage of a pair of braces with something between them, but no
brace. -/
theorem exists_origin {source rendered : Text}
    (h : StandsAt (stage formula passes) place (.group source rendered)) :
    ∃ earlier < passes, ∃ front content back, source = sourceOf content ∧
      stage formula earlier = front ++ .char '{' :: (content ++ .char '}' :: back) ∧
      (sourceOf front).length = place ∧ content ≠ [] ∧ ∀ a ∈ content, a.isBrace = false := by
  induction passes with
  -- the formula as it is written has no groups yet
  | zero =>
    obtain ⟨front, back, heq, -⟩ := h
    have hmem : .group source rendered ∈ Atom.ofText formula := by
      change Atom.ofText formula = _ at heq
      simp [heq]
    obtain ⟨c, -, hc⟩ := List.mem_map.mp hmem
    cases hc
  | succ passes ih =>
    rw [stage_succ] at h
    rcases h.of_afterPass with hbefore | ⟨front, content, back, hgroup, horigin⟩
    · obtain ⟨earlier, hless, horigin⟩ := ih hbefore
      exact ⟨earlier, hless.trans (Nat.lt_succ_self _), horigin⟩
    · refine ⟨passes, Nat.lt_succ_self _, front, content, back, ?_, horigin⟩
      cases hgroup
      rfl

end

/-! ## Pairs that become groups -/

/-- A pair of braces becomes a group: at some stage a group stands in its place. -/
def Grouped (formula : Text) (pair : BracePair) : Prop :=
  ∃ passes source rendered, StandsAt (stage formula passes) pair.opening (.group source rendered) ∧
    pair.closing = pair.opening + source.length + 1

/-- The brace at a place belongs to a pair that becomes a group. -/
def InGroup (formula : Text) (place : ℕ) : Prop :=
  ∃ pair ∈ bracePairs formula, pair.Owns place ∧ Grouped formula pair

section

variable {formula : Text} {place passes : ℕ} {pair : BracePair}

/-- The character at the place of a brace is a brace. -/
theorem BraceAt.isBrace {c : Char} (h : BraceAt formula place) (hc : formula[place]? = some c) :
    (Atom.char c).isBrace = true := by
  rcases h with h | h <;> rw [hc] at h <;> cases h <;> rfl

/-- The place of a character that is a brace is the place of a brace. -/
theorem braceAt_of_isBrace {c : Char} (h : (Atom.char c).isBrace = true)
    (hc : formula[place]? = some c) : BraceAt formula place := by
  rcases (by simpa [Atom.isBrace, Atom.isCharOf] using h) with rfl | rfl
  · exact .inl hc
  · exact .inr hc

/-- Only braces that match become a group. -/
theorem Grouped.mem_bracePairs (h : Grouped formula pair) : pair ∈ bracePairs formula := by
  obtain ⟨passes, source, rendered, hstands, hclosing⟩ := h
  obtain ⟨opening, closing⟩ := pair
  obtain ⟨front, back, hsource, rfl⟩ := hstands.exists_source
  obtain ⟨before, after, hstage, -⟩ := hstands
  have hbalanced : (Atom.group source rendered).IsBalanced :=
    isBalanced_of_mem_stage (hstage ▸ List.mem_append_right before List.mem_cons_self)
  have hformula : formula = front ++ '{' :: (source ++ '}' :: back) := by
    rw [← sourceOf_stage formula passes, hsource]
    simp [Atom.source]
  simp only at hclosing
  rw [hclosing, hformula]
  exact mem_bracePairs_of_balanced hbalanced

/-- The braces of a group have something between them. -/
theorem Grouped.lt (h : Grouped formula pair) : pair.opening + 1 < pair.closing := by
  obtain ⟨passes, source, rendered, hstands, hclosing⟩ := h
  obtain ⟨earlier, -, front, content, back, rfl, -, -, hne, -⟩ := exists_origin hstands
  obtain ⟨atom, content, rfl⟩ := List.exists_cons_of_ne_nil hne
  have hpositive := atom.length_source_pos
  rw [Atom.sourceOf_cons, List.length_append] at hclosing
  omega

/-- A brace in the source of a group belongs to a pair that becomes a group. If it is not one of the
braces that the group was made of, then it stood between them in another group. -/
theorem exists_grouped {source rendered : Text} {start : ℕ}
    (h : StandsAt (stage formula passes) start (.group source rendered)) (hle : start ≤ place)
    (hlt : place < start + source.length + 2) (hbrace : BraceAt formula place) :
    InGroup formula place := by
  induction passes using Nat.strong_induction_on generalizing start source rendered with
  | _ passes ih =>
    have hpair : Grouped formula ⟨start, start + source.length + 1⟩ := ⟨passes, _, _, h, rfl⟩
    by_cases howns : BracePair.Owns ⟨start, start + source.length + 1⟩ place
    · exact ⟨_, hpair.mem_bracePairs, howns, hpair⟩
    · obtain ⟨earlier, hless, front, content, back, rfl, hstage, rfl, -, hplain⟩ := exists_origin h
      simp only [BracePair.Owns, not_or] at howns
      obtain ⟨inner, atom, hinner, hfrom, hto⟩ : ∃ inner atom, StandsAt content inner atom ∧
          inner ≤ place - ((sourceOf front).length + 1) ∧
          place - ((sourceOf front).length + 1) < inner + atom.source.length :=
        exists_standsAt (by omega)
      have hstands := hinner.behind front (.char '}' :: back) (.char '{')
      rw [← hstage, Atom.length_source_char] at hstands
      cases atom with
      | char c =>
        -- no brace stood there as a character
        obtain rfl : place = (sourceOf front).length + 1 + inner := by
          rw [Atom.length_source_char] at hto
          omega
        have hchar := hstands.getElem?
        rw [sourceOf_stage] at hchar
        have hnot := hplain _ hinner.mem
        rw [hbrace.isBrace hchar] at hnot
        cases hnot
      | group source rendered =>
        rw [Atom.length_source_group] at hto
        exact ih earlier hless hstands (by omega) (by omega)

/-- A brace that stands as a character at some stage belongs to no group of that stage. -/
theorem not_owns_of_standsAt {c : Char} {source rendered : Text} {start : ℕ}
    (h : StandsAt (stage formula passes) place (.char c))
    (hgroup : StandsAt (stage formula passes) start (.group source rendered)) :
    place ≠ start ∧ place ≠ start + source.length + 1 := by
  have hapart : ¬ (place < start + (source.length + 2) ∧ start < place + 1) := by
    rintro ⟨hlt, hlt'⟩
    cases h.eq_of_covers hgroup (by rwa [Atom.length_source_group]) hlt'
  constructor <;> rintro rfl <;> exact hapart (by omega)

end

/-! ## After all passes -/

section

variable {formula : Text} {place : ℕ}

/-- What a formula is flattened to. -/
def flattened (formula : Text) : List Atom :=
  (flatten renderFlat (Atom.ofText formula)).value

/-- The passes end, and each pass but those after the last removes at least two braces. -/
theorem exists_stage_eq_flattened (formula : Text) :
    ∃ last, (∀ passes, last ≤ passes → stage formula passes = flattened formula) ∧
      ∀ passes < last, (stage formula (passes + 1)).countP Atom.isBrace + 2
        ≤ (stage formula passes).countP Atom.isBrace := by
  obtain ⟨last, hlast, hless⟩ := exists_iterate_eq_flatten (Atom.ofText formula)
  refine ⟨last, fun passes hle => ?_, hless⟩
  induction hle with
  | refl => exact hlast
  | step hle ih =>
    rw [stage_succ, ih]
    exact afterPass_of_not_hasPair (not_hasPair_flatten _ _)

/-- The source of the flattened formula is the formula. -/
theorem sourceOf_flattened (formula : Text) : sourceOf (flattened formula) = formula := by
  obtain ⟨last, hlast, -⟩ := exists_stage_eq_flattened formula
  rw [← hlast last le_rfl, sourceOf_stage]

/-- **The braces that stay.** A brace is a character of the flattened formula unless it belongs to a
pair that becomes a group. -/
theorem standsAt_flattened_iff {c : Char} (hbrace : (Atom.char c).isBrace = true)
    (hc : formula[place]? = some c) :
    StandsAt (flattened formula) place (.char c) ↔ ¬ InGroup formula place := by
  obtain ⟨last, hlast, -⟩ := exists_stage_eq_flattened formula
  constructor
  · rintro hstands ⟨pair, -, howns, passes, source, rendered, hgroup, hclosing⟩
    -- it stands as a character when the group is made, too
    have hthen : StandsAt (stage formula passes) place (.char c) := by
      rcases Nat.le_total passes last with hle | hle
      · rw [← hlast last le_rfl] at hstands
        exact hstands.of_le hle
      · rwa [hlast passes hle]
    obtain ⟨hopening, hlater⟩ := not_owns_of_standsAt hthen hgroup
    rw [BracePair.Owns, hclosing] at howns
    exact howns.elim hopening hlater
  · intro hnot
    have hlt : place < (sourceOf (flattened formula)).length := by
      rw [sourceOf_flattened]
      exact (List.getElem?_eq_some_iff.mp hc).1
    obtain ⟨start, atom, hstands, hle, hcovers⟩ := exists_standsAt hlt
    cases atom with
    | char d =>
      obtain rfl : place = start := by
        rw [Atom.length_source_char] at hcovers
        omega
      have hd := hstands.getElem?
      rw [sourceOf_flattened, hc] at hd
      rwa [Option.some.inj hd]
    | group source rendered =>
      rw [← hlast last le_rfl] at hstands
      rw [Atom.length_source_group] at hcovers
      exact absurd (exists_grouped hstands hle hcovers (braceAt_of_isBrace hbrace hc)) hnot

/-- A pair with something in it becomes a group if all braces in it belong to groups: else its own
braces would be an innermost pair in the end. -/
theorem grouped_of_inside {pair : BracePair} (hpair : pair ∈ bracePairs formula)
    (hlt : pair.opening + 1 < pair.closing)
    (hinside : ∀ place, pair.opening < place → place < pair.closing → BraceAt formula place →
      InGroup formula place) : Grouped formula pair := by
  obtain ⟨hopening, hclosing, -⟩ := braces_of_mem_bracePairs hpair
  by_contra hnot
  have hfree : ∀ place, pair.Owns place → ¬ InGroup formula place := by
    rintro place howns ⟨other, hother, howns', hgrouped⟩
    rw [bracePairs_eq_of_owns hpair hother howns howns'] at hnot
    exact hnot hgrouped
  have hopen := (standsAt_flattened_iff rfl hopening).mpr (hfree _ (.inl rfl))
  have hclose := (standsAt_flattened_iff rfl hclosing).mpr (hfree _ (.inr rfl))
  rcases hopen.eq_or_between hclose (by omega) with ⟨heq, -⟩ | ⟨front, inner, back, heq, hfront, hplace⟩
  · omega
  · rw [Atom.length_source_char] at hplace
    have hne : inner ≠ [] := by
      rintro rfl
      simp only [Atom.sourceOf_nil, List.length_nil] at hplace
      omega
    refine not_hasPair_flatten renderFlat (Atom.ofText formula)
      ⟨front, inner, back, by simpa [flattened] using heq, hne, fun atom hatom => ?_⟩
    by_contra hbrace
    rw [Bool.not_eq_false] at hbrace
    cases atom with
    | group source rendered => cases hbrace
    | char c =>
      -- a brace between them would be a character to the end, too
      obtain ⟨before, after, rfl⟩ := List.append_of_mem hatom
      have hinner : StandsAt (before ++ .char c :: after) (sourceOf before).length (.char c) :=
        ⟨before, after, rfl, rfl⟩
      have hstands := hinner.behind front (.char '}' :: back) (.char '{')
      rw [← heq, hfront, Atom.length_source_char] at hstands
      have hchar := hstands.getElem?
      rw [sourceOf_flattened] at hchar
      rw [Atom.length_sourceOf_append_cons, Atom.length_source_char] at hplace
      exact (standsAt_flattened_iff hbrace hchar).mp hstands
        (hinside _ (by omega) (by omega) (braceAt_of_isBrace hbrace hchar))

/-- If all pairs of a sequence become groups, no brace is left. -/
theorem Collapsing.isBrace_eq_false {text : List Atom → Text} {stage atoms : List Atom}
    (h : Collapsing text stage atoms) : ∀ atom ∈ atoms, atom.isBrace = false := by
  induction h with
  | nil => exact fun atom hatom => (List.not_mem_nil hatom).elim
  | atom ha _ ih => exact List.forall_mem_cons.mpr ⟨ha, ih⟩
  | braces _ _ _ _ ih => exact List.forall_mem_cons.mpr ⟨rfl, ih⟩

end

/-- **Which pairs of braces become groups.** A pair becomes a group if and only if its braces match as
by a stack, something stands between them, and every brace between them belongs to a pair that becomes
a group. All other braces are characters of the flattened formula.

The passes end, and each one but the last takes two braces at least out of the formula. If the braces
are balanced and no pair is empty, none is left. -/
theorem bracePairs_grouped (formula : Text) :
    (∀ pair, Grouped formula pair ↔ pair ∈ bracePairs formula ∧ pair.opening + 1 < pair.closing ∧
      ∀ place, pair.opening < place → place < pair.closing → BraceAt formula place →
        InGroup formula place) ∧
    (∀ place c, formula[place]? = some c → (c = '{' ∨ c = '}') →
      (StandsAt (flattened formula) place (.char c) ↔ ¬ InGroup formula place)) ∧
    (∃ last, stage formula last = flattened formula ∧
      afterPass (flattened formula) = flattened formula ∧
      ∀ passes < last, (stage formula (passes + 1)).countP Atom.isBrace + 2
        ≤ (stage formula passes).countP Atom.isBrace) ∧
    (balanced 0 formula = true → Text.occursIn ['{', '}'] formula = false →
      ∀ atom ∈ flattened formula, atom.isBrace = false) := by
  refine ⟨fun pair => ⟨fun hgrouped => ?_, fun ⟨hpair, hlt, hinside⟩ => ?_⟩, ?_, ?_, ?_⟩
  · refine ⟨hgrouped.mem_bracePairs, hgrouped.lt, fun place hfrom hto hbrace => ?_⟩
    obtain ⟨passes, source, rendered, hstands, hclosing⟩ := hgrouped
    exact exists_grouped hstands hfrom.le (by omega) hbrace
  · exact grouped_of_inside hpair hlt hinside
  · rintro place c hc hbrace
    exact standsAt_flattened_iff (by rcases hbrace with rfl | rfl <;> rfl) hc
  · obtain ⟨last, hlast, hless⟩ := exists_stage_eq_flattened formula
    exact ⟨last, hlast last le_rfl, afterPass_of_not_hasPair (not_hasPair_flatten _ _), hless⟩
  · intro hbalanced hfull
    obtain ⟨atoms, hatoms⟩ :=
      balances_of_balanced flatText formula 0 hbalanced (Text.occursIn_eq_false_iff.mp hfull)
    rw [flattened, hatoms.value_flatten fun _ => rfl]
    exact hatoms.isBrace_eq_false

/-- An open brace that nothing closes stays before a group, and pairs in each other both go. -/
theorem bracePairs_grouped_unclosed :
    Grouped "\x7b\x7ba\x7d".toList ⟨1, 3⟩ ∧
      StandsAt (flattened "\x7b\x7ba\x7d".toList) 0 (.char '{') ∧
      balanced 0 "\x7ba\x7bb\x7d\x7d".toList = true ∧
      Text.occursIn ['{', '}'] "\x7ba\x7bb\x7d\x7d".toList = false ∧
      ∀ atom ∈ flattened "\x7ba\x7bb\x7d\x7d".toList, atom.isBrace = false := by
  have hpairs : bracePairs "\x7b\x7ba\x7d".toList = [⟨1, 3⟩] := by decide
  have hbalanced : balanced 0 "\x7ba\x7bb\x7d\x7d".toList = true := by decide
  have hfull : Text.occursIn ['{', '}'] "\x7ba\x7bb\x7d\x7d".toList = false := by decide
  obtain ⟨hgrouped, hstays, -, -⟩ := bracePairs_grouped "\x7b\x7ba\x7d".toList
  refine ⟨(hgrouped _).mpr ⟨hpairs ▸ List.mem_singleton_self _, by decide,
    fun place hfrom hto hbrace => ?_⟩,
    (hstays 0 '{' rfl (.inl rfl)).mpr ?_, hbalanced, hfull,
    (bracePairs_grouped _).2.2.2 hbalanced hfull⟩
  · obtain rfl : place = 2 := by simp only at hfrom hto; omega
    exact absurd hbrace (by rintro (h | h) <;> cases h)
  · rintro ⟨pair, hpair, howns, -⟩
    rw [hpairs, List.mem_singleton] at hpair
    subst hpair
    rcases howns with h | h <;> cases h

end WikiText.Formula
