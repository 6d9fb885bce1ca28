import WikiText.Proofs.Formula.Indexed

/-!
# Tokens partition a sequence

A sequence is read by calls for the next token, each of which goes on at the place where the last one
stopped. Whatever a matcher looked at and gave back, a call before the end of the sequence returns a
token and stops at a later place of it (`next?_cases`). So the calls end at the end of the sequence, and
the blocks that they read tile it (`tokens_partition`).
-/

namespace WikiText.Formula.Token

/-! ## One call -/

/-- The next token from a place of a sequence on, and the place behind it. -/
def next? (atoms : List Atom) (place : ℕ) : Option (Token × ℕ) :=
  (scanner.run (atoms.drop place)).map fun (token, rest) => (token, atoms.length - rest.length)

/-- A call at the end returns nothing. Any other call returns a token, reads at least one atom and stays
in the sequence; what it leaves is what stands behind its place. -/
theorem next?_cases (atoms : List Atom) (place : ℕ) :
    (atoms.length ≤ place ∧ next? atoms place = none) ∨
      ∃ token stop, next? atoms place = some (token, stop) ∧ place < stop ∧ stop ≤ atoms.length ∧
        scanner.run (atoms.drop place) = some (token, atoms.drop stop) := by
  by_cases hplace : atoms.length ≤ place
  · left
    refine ⟨hplace, ?_⟩
    rw [next?, List.drop_eq_nil_of_le hplace]
    rfl
  · right
    obtain ⟨atom, tail, hdrop⟩ := List.exists_cons_of_ne_nil
      (mt List.drop_eq_nil_iff.mp hplace)
    obtain ⟨⟨token, rest⟩, hrun⟩ :=
      Option.ne_none_iff_exists'.mp (run_token_ne_none atom tail)
    rw [← hdrop] at hrun
    have hconsumed := consumes_scanner _ _ _ hrun
    have hsuffix := (scanner.suffix hrun).trans (List.drop_suffix place atoms)
    rw [List.length_drop] at hconsumed
    refine ⟨token, atoms.length - rest.length, ?_, by omega, by omega, ?_⟩
    · rw [next?, hrun]
      rfl
    · rw [hrun, ← List.suffix_iff_eq_drop.mp hsuffix]

/-- A token takes at least one atom, and none beyond the end. -/
theorem next?_bounds {atoms : List Atom} {place stop : ℕ} {token : Token}
    (h : next? atoms place = some (token, stop)) : place < stop ∧ stop ≤ atoms.length := by
  rcases next?_cases atoms place with ⟨-, hnone⟩ | ⟨_, _, hsome, hlt, hle, -⟩
  · rw [hnone] at h
    cases h
  · rw [hsome] at h
    cases h
    exact ⟨hlt, hle⟩

/-- There is a token at every place before the end. -/
theorem isSome_next?_iff (atoms : List Atom) (place : ℕ) :
    (next? atoms place).isSome = true ↔ place < atoms.length := by
  rcases next?_cases atoms place with ⟨hle, hnone⟩ | ⟨_, _, hsome, hlt, hle, -⟩
  · rw [hnone]
    simpa using hle
  · rw [hsome]
    simp only [Option.isSome_some, true_iff]
    omega

/-! ## All calls -/

/-- A token with the places that it is read from. -/
structure Block where
  /-- The token. -/
  token : Token
  /-- The place of its first atom. -/
  start : ℕ
  /-- The place behind its last atom. -/
  stop : ℕ

/-- The blocks read by the calls from a place on, until one returns nothing. -/
def blocks (atoms : List Atom) (place : ℕ) : List Block :=
  match _h : next? atoms place with
  | some (token, stop) => ⟨token, place, stop⟩ :: blocks atoms stop
  | none => []
termination_by atoms.length - place
decreasing_by
  have hbounds := next?_bounds _h
  omega

/-- Blocks that stand side by side, none of them empty, from one place to another. -/
inductive Tiles : ℕ → List Block → ℕ → Prop
  | nil (place : ℕ) : Tiles place [] place
  | cons {block : Block} {blocks : List Block} {stop : ℕ} (nonempty : block.start < block.stop)
    (rest : Tiles block.stop blocks stop) : Tiles block.start (block :: blocks) stop

/-- The atoms of a block. -/
def Block.content (atoms : List Atom) (block : Block) : List Atom :=
  atoms.extract block.start block.stop

/-- Whether a place belongs to a block. -/
def Block.covers (place : ℕ) (block : Block) : Bool :=
  block.start ≤ place && place < block.stop

/-- Blocks that tile a range end no earlier than they start. -/
theorem Tiles.le {start stop : ℕ} {blocks : List Block} (h : Tiles start blocks stop) :
    start ≤ stop := by
  induction h with
  | nil place => exact le_rfl
  | cons nonempty rest ih => exact nonempty.le.trans ih

/-- What tiles stand on, put together, is what is between the two places. -/
theorem Tiles.flatMap_content {start stop : ℕ} {blocks : List Block} (h : Tiles start blocks stop)
    (atoms : List Atom) : blocks.flatMap (Block.content atoms) = atoms.extract start stop := by
  induction h with
  | nil place => simp [List.extract_eq_take_drop]
  | cons nonempty rest ih =>
    rw [List.flatMap_cons, ih, Block.content, extract_append_extract atoms nonempty.le rest.le]

/-- A place before the tiles belongs to none of them. -/
theorem Tiles.countP_of_lt {start stop place : ℕ} {blocks : List Block} (h : Tiles start blocks stop)
    (hplace : place < start) : blocks.countP (Block.covers place) = 0 := by
  induction h with
  | nil start => rfl
  | cons nonempty rest ih =>
    rw [List.countP_cons, ih (hplace.trans nonempty), Block.covers, decide_eq_false hplace.not_ge]
    rfl

/-- A place between the two belongs to exactly one tile. -/
theorem Tiles.countP_eq_one {start stop place : ℕ} {blocks : List Block}
    (h : Tiles start blocks stop) (hstart : start ≤ place) (hstop : place < stop) :
    blocks.countP (Block.covers place) = 1 := by
  induction h with
  | nil start => omega
  | @cons block blocks stop nonempty rest ih =>
    rw [List.countP_cons, Block.covers, decide_eq_true hstart, Bool.true_and]
    by_cases hfirst : place < block.stop
    · rw [rest.countP_of_lt hfirst, decide_eq_true hfirst]
      rfl
    · rw [ih (by omega) hstop, decide_eq_false hfirst]
      rfl

/-- The blocks tile what is left of the sequence, and their tokens are those of what is left. -/
theorem tiles_blocks {atoms : List Atom} {place : ℕ} (h : place ≤ atoms.length) :
    Tiles place (blocks atoms place) atoms.length ∧
      (blocks atoms place).map Block.token = all (atoms.drop place) ∧
      ∀ block ∈ blocks atoms place, next? atoms block.start = some (block.token, block.stop) := by
  fun_induction blocks atoms place with
  | case1 place token stop hnext ih =>
    rcases next?_cases atoms place with ⟨-, hnone⟩ | ⟨_, _, hsome, hlt, hle, hrun⟩
    · cases hnone.symm.trans hnext
    · cases hsome.symm.trans hnext
      obtain ⟨htiles, htokens, hcalls⟩ := ih hle
      refine ⟨@Tiles.cons ⟨token, place, stop⟩ _ _ hlt htiles, ?_, ?_⟩
      · rw [List.map_cons, htokens, all_of_some hrun]
      · intro block hblock
        rcases List.mem_cons.mp hblock with rfl | hblock
        · exact hnext
        · exact hcalls block hblock
  | case2 place hnext =>
    -- the blocks end only where no atom is left
    obtain rfl : place = atoms.length := by
      rcases next?_cases atoms place with ⟨hle, -⟩ | ⟨_, _, hsome, -⟩
      · exact le_antisymm h hle
      · cases hsome.symm.trans hnext
    refine ⟨.nil _, ?_, fun block hblock => (List.not_mem_nil hblock).elim⟩
    rw [List.drop_length, all_nil]
    rfl

/-- **The tokens partition the sequence.** A call for the next token returns one exactly before the end
of the sequence, and then reads at least one atom and never beyond the end. The tokens of a sequence are
what the calls return, one after the other; the blocks that they read stand side by side from the
beginning to the end, so that put together they are the sequence, and every atom is in one of them. -/
theorem tokens_partition (atoms : List Atom) :
    (∀ place, (next? atoms place).isSome = true ↔ place < atoms.length) ∧
    (∀ place token stop, next? atoms place = some (token, stop) →
      place < stop ∧ stop ≤ atoms.length) ∧
    (∀ block ∈ blocks atoms 0, next? atoms block.start = some (block.token, block.stop)) ∧
    (blocks atoms 0).map Block.token = all atoms ∧
    Tiles 0 (blocks atoms 0) atoms.length ∧
    (blocks atoms 0).flatMap (Block.content atoms) = atoms ∧
    ∀ place < atoms.length, (blocks atoms 0).countP (Block.covers place) = 1 := by
  obtain ⟨htiles, htokens, hcalls⟩ := tiles_blocks (Nat.zero_le atoms.length)
  refine ⟨isSome_next?_iff atoms, fun _ _ _ => next?_bounds, hcalls, htokens, htiles, ?_, ?_⟩
  · rw [htiles.flatMap_content, List.extract_eq_take_drop, List.drop_zero, Nat.sub_zero,
      List.take_length]
  · exact fun place hplace => htiles.countP_eq_one place.zero_le hplace

/-- A fraction without its operands gives back what it read of them, and so does a root without its
operand; both are tokens nevertheless. -/
theorem tokens_partition_given_back :
    let atoms := Atom.ofText "\\frac\\sqrt".toList
    next? atoms 0 = some (.broken "\\frac".toList, 5) ∧ 5 ≤ atoms.length ∧
      next? atoms 5 = some (.item none none (.command "sqrt".toList), 10) ∧
      7 < atoms.length ∧ (blocks atoms 0).countP (Block.covers 7) = 1 := by
  intro atoms
  have hfirst : next? atoms 0 = some (.broken "\\frac".toList, 5) := by decide +kernel
  have hsecond : next? atoms 5 = some (.item none none (.command "sqrt".toList), 10) := by
    decide +kernel
  have hlength : 7 < atoms.length := by decide
  obtain ⟨-, hbounds, -, -, -, -, hcount⟩ := tokens_partition atoms
  exact ⟨hfirst, (hbounds 0 _ 5 hfirst).2, hsecond, hlength, hcount 7 hlength⟩

end WikiText.Formula.Token
