import Mathlib.Algebra.Ring.Parity
import WikiText.Proofs.Emphasis.Residue

/-!
# How often emphasis is switched

A run that switches italic takes two apostrophes for it and one that switches bold takes three, whatever
is open where it stands (`State.left_add_switches`). So the apostrophes that are taken out of the front of
a line tell how often italic and bold were switched in it (`count_before`), and what is open behind it is
what was switched an odd number of times (`behind_eq_iff`).
-/

namespace WikiText.Emphasis

/-- Whether italic type is open. -/
def State.isItalic : State → Bool
  | upright => false
  | italic => true
  | bold => false
  | both => true

/-- Whether bold type is open. -/
def State.isBold : State → Bool
  | upright => false
  | italic => false
  | bold => true
  | both => true

/-- Once if what is open changes from one place to the next, and else not at all. -/
def switched (isOpen : State → Bool) (state next : State) : ℕ :=
  if isOpen next = isOpen state then 0 else 1

/-- How often what is open changes in the front of a line, `later` being what follows it. -/
def State.switches (isOpen : State → Bool) (state : State) (later : List Part) : List Part → ℕ
  | [] => 0
  | .char _ :: front => state.switches isOpen later front
  | .run length :: front =>
    let next := state.next length ((front ++ later).any Part.switchesBold)
    switched isOpen state next + next.switches isOpen later front

/-! ## One run -/

/-- Two markers switch italic, three switch bold, and five switch both. -/
theorem State.markers_eq_switches (state : State) (length : ℕ) (boldFollows : Bool) :
    (state.advance length boldFollows).2
      = 2 * switched isItalic state (state.advance length boldFollows).1
        + 3 * switched isBold state (state.advance length boldFollows).1 := by
  unfold State.advance
  split
  · cases state <;> rfl
  · split
    · cases state <;> cases boldFollows <;> rfl
    · cases state <;> rfl

/-- Of a run, two apostrophes are taken out for italic and three for bold, and the others stay. -/
theorem State.left_add_switches (state : State) (length : ℕ) (boldFollows : Bool) :
    state.left length boldFollows
        + (2 * switched isItalic state (state.next length boldFollows)
          + 3 * switched isBold state (state.next length boldFollows)) = length := by
  unfold State.left State.next
  split
  · simp [switched]
  · next hlong =>
    have hle := state.markers_le (Nat.le_of_not_lt hlong) boldFollows
    rw [← state.markers_eq_switches]
    omega

/-- A run of three or four where italic is open switches bold if bold follows, and else not. -/
theorem State.isBold_next_italic {length : ℕ} (h : length = 3 ∨ length = 4) (boldFollows : Bool) :
    (italic.next length boldFollows).isBold = boldFollows := by
  rcases h with rfl | rfl <;> cases boldFollows <;> rfl

/-- A switch makes the difference between open and closed. -/
theorem even_switched_iff (isOpen : State → Bool) (state next : State) :
    Even (switched isOpen state next) ↔ isOpen next = isOpen state := by
  unfold switched
  split
  · next hsame => simp [hsame]
  · next hother => simp [hother]

/-! ## The front of a line -/

/-- What is open is as it was if it was switched an even number of times. -/
theorem behind_eq_iff (isOpen : State → Bool) (state : State) (front later : List Part) :
    isOpen (state.behind later front) = isOpen state ↔ Even (state.switches isOpen later front) := by
  induction front generalizing state with
  | nil => simp [State.behind, State.switches]
  | cons part front ih =>
    cases part with
    | char c => exact ih state
    | run length =>
      rw [State.behind, State.switches, Nat.even_add, ← ih, even_switched_iff]
      generalize state.next length ((front ++ later).any Part.switchesBold) = next
      cases isOpen state <;> cases isOpen next <;> simp

/-- What is closed at first is open behind an odd number of switches. -/
theorem isOpen_behind_iff {isOpen : State → Bool} (h : isOpen .upright = false)
    (front later : List Part) :
    isOpen (State.upright.behind later front) = true ↔
      Odd (State.upright.switches isOpen later front) := by
  rw [← Nat.not_even_iff_odd, ← behind_eq_iff, h, Bool.not_eq_false]

/-- The apostrophes of the front of a line are those that stay and those taken out for switches. -/
theorem count_before (state : State) (before : Text) (later : List Part) :
    before.count '\x27' = (state.kept later (parts before)).count '\x27'
      + (2 * state.switches State.isItalic later (parts before)
        + 3 * state.switches State.isBold later (parts before)) := by
  induction before using run_induction generalizing state with
  | nil => rfl
  | char c before hc ih =>
    rw [parts_cons_of_ne hc, State.kept, List.count_cons_of_ne hc, List.count_cons_of_ne hc, ih state]
    rfl
  | run length before hpos hbefore ih =>
    have hrun := state.left_add_switches length ((parts before ++ later).any Part.switchesBold)
    rw [parts_run hpos hbefore, State.kept, List.count_append, List.count_append,
      List.count_replicate_self, List.count_replicate_self, State.switches, State.switches,
      ih (state.next length ((parts before ++ later).any Part.switchesBold))]
    omega

/-! ## Places of a line -/

/-- What stays of the first part of a line, before the rest of it. -/
def keptBefore (before rest : Text) : Text :=
  State.upright.kept (parts rest) (parts before)

/-- How often italic is switched in the first part of a line, before the rest of it. -/
def italicSwitches (before rest : Text) : ℕ :=
  State.upright.switches State.isItalic (parts rest) (parts before)

/-- How often bold is switched in the first part of a line, before the rest of it. -/
def boldSwitches (before rest : Text) : ℕ :=
  State.upright.switches State.isBold (parts rest) (parts before)

/-- The state behind a text is that behind its second part, from the state behind its first. -/
theorem behind_append (state : State) (front more later : List Part) :
    state.behind later (front ++ more) = (state.behind (more ++ later) front).behind later more := by
  induction front generalizing state with
  | nil => rfl
  | cons part front ih =>
    cases part with
    | char c => exact ih state
    | run length => rw [List.cons_append, State.behind, State.behind, ih, List.append_assoc]

/-- The emphasis behind a run is what the run makes of the emphasis before it. -/
theorem IsRun.openAt_append {line before after : Text} {length : ℕ}
    (h : IsRun line before length after) :
    openAt (before ++ List.replicate length '\x27') after
      = (openAt before (List.replicate length '\x27' ++ after)).next length
        ((parts after).any Part.switchesBold) := by
  have hrun : parts (List.replicate length '\x27') = [.run length] := by
    have hparts : parts (List.replicate length '\x27' ++ []) = .run length :: parts [] :=
      parts_run h.pos (by simp)
    rwa [List.append_nil] at hparts
  rw [openAt, openAt, parts_append_of_cut fun hlast => absurd hlast h.last, hrun, behind_append,
    parts_run h.pos h.head]
  rfl

/-- A run that could switch bold stands in a text. -/
theorem any_switchesBold_iff (text : Text) :
    (parts text).any Part.switchesBold = true ↔
      ∃ before length after, IsRun text before length after ∧ 3 ≤ length := by
  rw [← not_iff_not, Bool.not_eq_true, any_switchesBold_eq_false_iff]
  simp only [not_exists, not_and, not_le]

/-- **What is open agrees with what was taken out.** At every place of a line where no run goes on, the
apostrophes that were taken out before it are two for each switch of italic and three for each switch of
bold, and italic and bold are open there if they were switched an odd number of times.

A run of three or four where italic is open switches bold if and only if a run of at least three stands
behind it on the line. -/
theorem openAt_switches (line : Text) :
    (∀ before rest, line = before ++ rest →
      (before.getLast? = some '\x27' → rest.head? ≠ some '\x27') →
        stripLine line = keptBefore before rest ++ strip (openAt before rest) (parts rest) ∧
          before.count '\x27' = (keptBefore before rest).count '\x27'
            + (2 * italicSwitches before rest + 3 * boldSwitches before rest) ∧
          ((openAt before rest).isItalic = true ↔ Odd (italicSwitches before rest)) ∧
          ((openAt before rest).isBold = true ↔ Odd (boldSwitches before rest))) ∧
    ∀ before length after, IsRun line before length after → length = 3 ∨ length = 4 →
      openAt before (List.replicate length '\x27' ++ after) = .italic →
        ((openAt (before ++ List.replicate length '\x27') after).isBold = true ↔
          ∃ between other behind, IsRun after between other behind ∧ 3 ≤ other) := by
  constructor
  · intro before rest hline hcut
    have hkept := strip_front_append .upright (parts before) (parts rest)
    rw [← parts_append_of_cut hcut, ← hline] at hkept
    exact ⟨hkept, count_before .upright before (parts rest),
      isOpen_behind_iff rfl (parts before) (parts rest),
      isOpen_behind_iff rfl (parts before) (parts rest)⟩
  · intro before length after hrun hlength hitalic
    rw [hrun.openAt_append, hitalic, State.isBold_next_italic hlength, any_switchesBold_iff]

/-- Behind a run of three where italic was open, and which a run of four follows, italic and bold have
been switched once each. -/
theorem openAt_switches_four :
    "\x27\x27a\x27\x27\x27".toList.count '\x27'
        = (keptBefore "\x27\x27a\x27\x27\x27".toList "b\x27\x27\x27\x27".toList).count '\x27'
          + (2 * italicSwitches "\x27\x27a\x27\x27\x27".toList "b\x27\x27\x27\x27".toList
            + 3 * boldSwitches "\x27\x27a\x27\x27\x27".toList "b\x27\x27\x27\x27".toList) ∧
      Odd (italicSwitches "\x27\x27a\x27\x27\x27".toList "b\x27\x27\x27\x27".toList) ∧
      (openAt "\x27\x27a\x27\x27\x27".toList "b\x27\x27\x27\x27".toList).isItalic = true ∧
      (openAt "\x27\x27a\x27\x27\x27".toList "b\x27\x27\x27\x27".toList).isBold = true := by
  have hplaces := (openAt_switches "\x27\x27a\x27\x27\x27b\x27\x27\x27\x27".toList).1
    "\x27\x27a\x27\x27\x27".toList "b\x27\x27\x27\x27".toList rfl (by decide)
  have hrun : IsRun "\x27\x27a\x27\x27\x27b\x27\x27\x27\x27".toList "\x27\x27a".toList 3
      "b\x27\x27\x27\x27".toList :=
    ⟨rfl, by decide, by decide, by decide⟩
  have hfour : IsRun "b\x27\x27\x27\x27".toList "b".toList 4 [] :=
    ⟨rfl, by decide, by decide, by decide⟩
  have hbold := (openAt_switches _).2 _ _ _ hrun (.inl rfl) (by decide)
  obtain ⟨-, hcount, hitalic, -⟩ := hplaces
  have hodd : Odd (italicSwitches "\x27\x27a\x27\x27\x27".toList "b\x27\x27\x27\x27".toList) := by
    decide
  exact ⟨hcount, hodd, hitalic.mpr hodd, hbold.mpr ⟨_, _, _, hfour, by decide⟩⟩

end WikiText.Emphasis
