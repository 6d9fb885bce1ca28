import WikiText.Proofs.Emphasis

/-!
# Runs of apostrophes

A run is a longest sequence of apostrophes in a text (`IsRun`). Where a run stands, the parts of the text
are those before it, the run, and those after it (`IsRun.parts_eq`).

What is open at a place of a line depends on the runs before the place, and through the lookahead for
bold on those after it too (`openAt`). What is left of the line is what stays of its front, and then what
is left of the rest from the emphasis on that is open there (`strip_front_append`).
-/

namespace WikiText.Emphasis

variable {text before after rest : Text} {length other : ℕ} {c : Char}

/-- A longest sequence of apostrophes in a text, between what is before and after it. -/
structure IsRun (text before : Text) (length : ℕ) (after : Text) : Prop where
  text_eq : text = before ++ List.replicate length '\x27' ++ after
  pos : 0 < length
  last : before.getLast? ≠ some '\x27'
  head : after.head? ≠ some '\x27'

/-! ## Places of runs -/

theorem not_isRun_nil : ¬ IsRun [] before length after := by
  intro h
  have hlength := congrArg List.length h.text_eq
  have hpos := h.pos
  simp only [List.length_nil, List.length_append, List.length_replicate] at hlength
  omega

/-- Behind another character, the runs are the same. -/
theorem isRun_cons_iff (hc : c ≠ '\x27') :
    IsRun (c :: rest) before length after ↔
      ∃ front, before = c :: front ∧ IsRun rest front length after := by
  -- the character in front is no apostrophe, so it does not matter for the end of what is before
  have hlast : ∀ front : Text, (c :: front).getLast? = some '\x27' ↔ front.getLast? = some '\x27' := by
    intro front
    rw [List.getLast?_cons]
    cases front.getLast? with
    | none => simp [hc]
    | some d => rfl
  constructor
  · rintro ⟨heq, hpos, hbefore, hafter⟩
    cases before with
    | nil =>
      obtain ⟨length, rfl⟩ := Nat.exists_eq_add_of_lt hpos
      rw [Nat.zero_add, List.replicate_succ] at heq
      exact absurd (List.cons_eq_cons.mp heq).1 hc
    | cons d front =>
      obtain ⟨rfl, rfl⟩ := List.cons_eq_cons.mp heq
      exact ⟨front, rfl, rfl, hpos, mt (hlast front).mpr hbefore, hafter⟩
  · rintro ⟨front, rfl, rfl, hpos, hfront, hafter⟩
    exact ⟨rfl, hpos, mt (hlast front).mp hfront, hafter⟩

/-- A run of apostrophes at the front is as long as it can be. -/
theorem eq_of_replicate_append {first second : Text} (hfirst : first.head? ≠ some '\x27')
    (hsecond : second.head? ≠ some '\x27')
    (h : List.replicate length '\x27' ++ first = List.replicate other '\x27' ++ second) :
    length = other ∧ first = second := by
  induction length generalizing other with
  | zero =>
    cases other with
    | zero => exact ⟨rfl, h⟩
    | succ other =>
      rw [List.replicate_zero, List.nil_append] at h
      exact absurd (congrArg List.head? h) hfirst
  | succ length ih =>
    cases other with
    | zero =>
      rw [List.replicate_zero, List.nil_append] at h
      exact absurd (congrArg List.head? h.symm) hsecond
    | succ other =>
      obtain ⟨rfl, rfl⟩ := ih (List.cons_eq_cons.mp h).2
      exact ⟨rfl, rfl⟩

/-- Before a run in a text that begins with no apostrophe, there is something. -/
theorem IsRun.ne_nil (h : IsRun text before length after) (htext : text.head? ≠ some '\x27') :
    before ≠ [] := by
  rintro rfl
  rw [h.text_eq, List.nil_append, List.head?_append, List.head?_replicate,
    if_neg (Nat.ne_of_gt h.pos)] at htext
  exact htext rfl

/-- What stands before a run begins as the text does. -/
theorem IsRun.head?_before (h : IsRun text before length after) (htext : text.head? ≠ some '\x27') :
    before.head? ≠ some '\x27' := by
  have hne := h.ne_nil htext
  rw [h.text_eq, List.append_assoc, List.head?_append_of_ne_nil _ hne] at htext
  exact htext

/-- A run at the front is a run, and the others stand behind it. -/
theorem isRun_run_iff (hpos : 0 < other) (hrest : rest.head? ≠ some '\x27') :
    IsRun (List.replicate other '\x27' ++ rest) before length after ↔
      before = [] ∧ length = other ∧ after = rest ∨
      ∃ front, before = List.replicate other '\x27' ++ front ∧ IsRun rest front length after := by
  constructor
  · rintro ⟨heq, hlength, hbefore, hafter⟩
    rw [List.append_assoc] at heq
    -- the run begins behind the front or within it
    rcases List.append_eq_append_iff.mp heq with ⟨front, rfl, hback⟩ | ⟨front, hfront, -⟩
    · cases front with
      | nil =>
        rw [List.append_nil, List.getLast?_replicate, if_neg (Nat.ne_of_gt hpos)] at hbefore
        exact absurd rfl hbefore
      | cons c front =>
        rw [List.getLast?_append_of_ne_nil _ (List.cons_ne_nil c front)] at hbefore
        refine .inr ⟨c :: front, rfl, ?_, hlength, hbefore, hafter⟩
        rw [hback, List.append_assoc]
    · -- before the run there are apostrophes only, and so there is nothing
      obtain rfl : before = [] := by
        by_contra hne
        have hmem : before.getLast hne ∈ List.replicate other '\x27' := by
          rw [hfront]
          exact List.mem_append_left _ (List.getLast_mem hne)
        rw [List.getLast?_eq_getLast_of_ne_nil hne, List.eq_of_mem_replicate hmem] at hbefore
        exact hbefore rfl
      obtain ⟨rfl, rfl⟩ := eq_of_replicate_append hafter hrest heq.symm
      exact .inl ⟨rfl, rfl, rfl⟩
  · rintro (⟨rfl, rfl, rfl⟩ | ⟨front, rfl, hfront⟩)
    · exact ⟨rfl, hpos, by simp, hrest⟩
    · refine ⟨by rw [hfront.text_eq, List.append_assoc, List.append_assoc, List.append_assoc],
        hfront.pos, ?_, hfront.head⟩
      rw [List.getLast?_append_of_ne_nil _ (hfront.ne_nil hrest)]
      exact hfront.last

/-- Where a run stands, a text is cut. -/
theorem IsRun.parts_eq (h : IsRun text before length after) :
    parts text = parts before ++ .run length :: parts after := by
  rw [h.text_eq, List.append_assoc, parts_append_of_cut fun hlast => absurd hlast h.last,
    parts_run h.pos h.head]

/-- The runs of a text are those that it is cut at. -/
theorem run_mem_parts_iff :
    .run length ∈ parts text ↔ ∃ before after, IsRun text before length after := by
  constructor
  · intro h
    induction text using run_induction with
    | nil => cases h
    | char c rest hc ih =>
      rw [parts_cons_of_ne hc] at h
      obtain ⟨front, after, hrun⟩ := ih (List.mem_of_ne_of_mem Part.noConfusion h)
      exact ⟨c :: front, after, (isRun_cons_iff hc).mpr ⟨front, rfl, hrun⟩⟩
    | run other rest hpos hrest ih =>
      rw [parts_run hpos hrest] at h
      rcases List.mem_cons.mp h with heq | h
      · obtain rfl := Part.run.inj heq
        exact ⟨[], rest, (isRun_run_iff hpos hrest).mpr (.inl ⟨rfl, rfl, rfl⟩)⟩
      · obtain ⟨front, after, hrun⟩ := ih h
        exact ⟨_, after, (isRun_run_iff hpos hrest).mpr (.inr ⟨front, rfl, hrun⟩)⟩
  · rintro ⟨before, after, h⟩
    rw [h.parts_eq]
    simp

/-! ## What is open -/

/-- The emphasis that is open behind the front of a line, `later` being what follows it. -/
def State.behind (state : State) (later : List Part) : List Part → State
  | [] => state
  | .char _ :: front => state.behind later front
  | .run length :: front =>
    (state.next length ((front ++ later).any Part.switchesBold)).behind later front

/-- What stays of the front of a line, `later` being what follows it. -/
def State.kept (state : State) (later : List Part) : List Part → Text
  | [] => []
  | .char c :: front => c :: state.kept later front
  | .run length :: front =>
    let boldFollows := (front ++ later).any Part.switchesBold
    List.replicate (state.left length boldFollows) '\x27'
      ++ (state.next length boldFollows).kept later front

/-- The rest of a line is read from the emphasis on that is open behind the front. -/
theorem strip_front_append (state : State) (front later : List Part) :
    strip state (front ++ later)
      = state.kept later front ++ strip (state.behind later front) later := by
  induction front generalizing state with
  | nil => rfl
  | cons part front ih =>
    cases part with
    | char c => exact congrArg (c :: ·) (ih state)
    | run length =>
      rw [List.cons_append, strip_run, ih, State.kept, State.behind, List.append_assoc]

/-- The emphasis that is open behind the first part of a line, before the rest of it. -/
def openAt (before rest : Text) : State :=
  State.upright.behind (parts rest) (parts before)

end WikiText.Emphasis
