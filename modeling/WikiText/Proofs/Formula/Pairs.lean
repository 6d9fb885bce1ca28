import Mathlib.Data.List.Pairwise
import WikiText.Proofs.Formula.Grouping

/-!
# Pairs of braces

The braces of a text match as by a stack: a closing brace matches the innermost open one, if there is
one. `bracePairs` are the pairs, by their places. Every brace is in one of them at most
(`bracePairs_eq_of_owns`), and braces around a balanced text are one (`mem_bracePairs_of_balanced`).
-/

namespace WikiText.Formula

/-- Two braces of a text that match, by their places. -/
structure BracePair where
  /-- The place of the opening brace. -/
  opening : ℕ
  /-- The place of the closing brace. -/
  closing : ℕ
  deriving DecidableEq, Repr

/-- A brace stands at a place of a text. -/
def BraceAt (text : Text) (place : ℕ) : Prop :=
  text[place]? = some '{' ∨ text[place]? = some '}'

/-- Whether the brace at a place is one of the pair. -/
def BracePair.Owns (pair : BracePair) (place : ℕ) : Prop :=
  place = pair.opening ∨ place = pair.closing

/-- Two pairs that have no brace in common. -/
def BracePair.Apart (pair other : BracePair) : Prop :=
  pair.opening ≠ other.opening ∧ pair.closing ≠ other.closing

instance : Std.Symm BracePair.Apart where
  symm _ _ h := ⟨h.1.symm, h.2.symm⟩

/-- The pairs of braces from a place of a text on, where `opened` are the places of the open braces
before it, innermost first. A closing brace matches the innermost of them, if there is one. -/
def bracePairsFrom (place : ℕ) (opened : List ℕ) : Text → List BracePair
  | [] => []
  | c :: rest =>
    if c = '{' then bracePairsFrom (place + 1) (place :: opened) rest
    else if c = '}' then
      match opened with
      | opening :: outer => ⟨opening, place⟩ :: bracePairsFrom (place + 1) outer rest
      | [] => bracePairsFrom (place + 1) [] rest
    else bracePairsFrom (place + 1) opened rest

/-- The pairs of braces of a text, matched as by a stack, in the order of their closing braces. -/
def bracePairs (text : Text) : List BracePair :=
  bracePairsFrom 0 [] text

section

variable {place : ℕ} {opened outer : List ℕ} {text : Text}

/-- An opening brace is put on the stack. -/
theorem bracePairsFrom_open (rest : Text) :
    bracePairsFrom place opened ('{' :: rest) = bracePairsFrom (place + 1) (place :: opened) rest :=
  rfl

/-- A closing brace makes a pair with the brace on top of the stack. -/
theorem bracePairsFrom_close (opening : ℕ) (rest : Text) :
    bracePairsFrom place (opening :: outer) ('}' :: rest)
      = ⟨opening, place⟩ :: bracePairsFrom (place + 1) outer rest :=
  rfl

/-- Any other character is passed over. -/
theorem bracePairsFrom_cons {c : Char} (hopen : c ≠ '{') (hclose : c ≠ '}') (rest : Text) :
    bracePairsFrom place opened (c :: rest) = bracePairsFrom (place + 1) opened rest := by
  rw [bracePairsFrom.eq_def]
  exact (if_neg hopen).trans (if_neg hclose)

/-- What is matched behind a text depends on it by the braces that it leaves open. -/
theorem exists_bracePairsFrom_append (place : ℕ) (opened : List ℕ) (text : Text) :
    ∃ pairs left, ∀ rest, bracePairsFrom place opened (text ++ rest)
      = pairs ++ bracePairsFrom (place + text.length) left rest := by
  induction text generalizing place opened with
  | nil => exact ⟨[], opened, fun _ => rfl⟩
  | cons c text ih =>
    have hlength : place + (c :: text).length = place + 1 + text.length := by
      rw [List.length_cons]
      omega
    rw [hlength]
    by_cases hopen : c = '{'
    · subst hopen
      exact ih (place + 1) (place :: opened)
    · by_cases hclose : c = '}'
      · subst hclose
        cases opened with
        | nil => exact ih (place + 1) []
        | cons opening outer =>
          obtain ⟨pairs, left, hrest⟩ := ih (place + 1) outer
          exact ⟨⟨opening, place⟩ :: pairs, left, fun rest => congrArg _ (hrest rest)⟩
      · obtain ⟨pairs, left, hrest⟩ := ih (place + 1) opened
        refine ⟨pairs, left, fun rest => ?_⟩
        rw [List.cons_append, bracePairsFrom_cons hopen hclose, hrest]

/-- A balanced text closes the braces that it is told to, and no others. -/
theorem exists_bracePairsFrom_balanced {depth : ℕ} (h : balanced depth text = true) (place : ℕ)
    {inner : List ℕ} (hinner : inner.length = depth) (outer : List ℕ) :
    ∃ pairs, ∀ rest, bracePairsFrom place (inner ++ outer) (text ++ rest)
      = pairs ++ bracePairsFrom (place + text.length) outer rest := by
  induction text generalizing place depth inner with
  | nil =>
    obtain rfl : depth = 0 := by simpa [balanced] using h
    obtain rfl := List.length_eq_zero_iff.mp hinner
    exact ⟨[], fun _ => rfl⟩
  | cons c text ih =>
    have hlength : place + (c :: text).length = place + 1 + text.length := by
      rw [List.length_cons]
      omega
    rw [hlength]
    rw [balanced] at h
    by_cases hopen : c = '{'
    · subst hopen
      rw [if_pos rfl] at h
      have hmore : (place :: inner).length = depth + 1 := by rw [List.length_cons, hinner]
      -- the new brace is one more of those that the text closes
      exact ih h (place + 1) hmore
    · rw [if_neg hopen] at h
      by_cases hclose : c = '}'
      · subst hclose
        rw [if_pos rfl, Bool.and_eq_true, decide_eq_true_eq] at h
        -- a balanced text closes a brace only where one of the inner ones is open
        cases inner with
        | nil =>
          rw [← hinner] at h
          exact absurd h.1 (Nat.lt_irrefl 0)
        | cons opening inner =>
          have hless : inner.length = depth - 1 := by
            rw [← hinner, List.length_cons, Nat.add_sub_cancel]
          obtain ⟨pairs, hrest⟩ := ih h.2 (place + 1) hless
          exact ⟨⟨opening, place⟩ :: pairs, fun rest => congrArg _ (hrest rest)⟩
      · rw [if_neg hclose] at h
        obtain ⟨pairs, hrest⟩ := ih h (place + 1) hinner
        refine ⟨pairs, fun rest => ?_⟩
        rw [List.cons_append, bracePairsFrom_cons hopen hclose, hrest]

/-- Braces around a balanced text match. -/
theorem mem_bracePairs_of_balanced {front inside back : Text} (h : balanced 0 inside = true) :
    ⟨front.length, front.length + inside.length + 1⟩
      ∈ bracePairs (front ++ '{' :: (inside ++ '}' :: back)) := by
  obtain ⟨pairs, left, hfront⟩ := exists_bracePairsFrom_append 0 [] front
  obtain ⟨more, hinside⟩ := exists_bracePairsFrom_balanced h (0 + front.length + 1)
    List.length_nil ((0 + front.length) :: left)
  have hplace : 0 + front.length + 1 + inside.length = front.length + inside.length + 1 := by omega
  rw [List.nil_append] at hinside
  rw [bracePairs, hfront, bracePairsFrom_open, hinside, bracePairsFrom_close, hplace, Nat.zero_add]
  simp

/-- What is matched from a place on is closed there, and opened there unless it was open before. -/
theorem bounds_of_mem_bracePairsFrom {pair : BracePair}
    (h : pair ∈ bracePairsFrom place opened text) :
    (pair.opening ∈ opened ∨ place ≤ pair.opening) ∧ place ≤ pair.closing := by
  fun_induction bracePairsFrom place opened text with
  | case1 => cases h
  | case2 place opened rest ih =>
    obtain ⟨hopening, hclosing⟩ := ih h
    refine ⟨?_, by omega⟩
    rcases hopening with hmem | hle
    -- the brace that was put on the stack is at this place
    · exact (List.mem_cons.mp hmem).symm.imp_right fun heq => heq.ge
    · exact .inr (by omega)
  | case3 place rest opening outer _ ih =>
    rcases List.mem_cons.mp h with rfl | hlater
    · exact ⟨.inl List.mem_cons_self, le_rfl⟩
    · obtain ⟨hopening, hclosing⟩ := ih hlater
      exact ⟨hopening.imp (List.mem_cons_of_mem _) (by omega), by omega⟩
  | case4 place rest _ ih =>
    obtain ⟨hopening, hclosing⟩ := ih h
    exact ⟨hopening.imp_right (by omega), by omega⟩
  | case5 place opened c rest _ _ ih =>
    obtain ⟨hopening, hclosing⟩ := ih h
    exact ⟨hopening.imp_right (by omega), by omega⟩

/-- Every brace belongs to one pair at most. -/
theorem pairwise_bracePairsFrom (hnodup : opened.Nodup) (hbefore : ∀ o ∈ opened, o < place) :
    (bracePairsFrom place opened text).Pairwise BracePair.Apart := by
  fun_induction bracePairsFrom place opened text with
  | case1 => exact .nil
  | case2 place opened rest ih =>
    refine ih (List.nodup_cons.mpr ⟨fun hmem => Nat.lt_irrefl _ (hbefore _ hmem), hnodup⟩) ?_
    intro o ho
    rcases List.mem_cons.mp ho with rfl | ho
    · exact Nat.lt_succ_self o
    · exact Nat.lt_succ_of_lt (hbefore o ho)
  | case3 place rest opening outer _ ih =>
    obtain ⟨hnew, houter⟩ := List.nodup_cons.mp hnodup
    have hhere := hbefore opening List.mem_cons_self
    refine List.pairwise_cons.mpr ⟨fun other hother => ?_, ih houter fun o ho =>
      Nat.lt_succ_of_lt (hbefore o (List.mem_cons_of_mem _ ho))⟩
    -- later pairs open at another place of the stack or behind this one, and close later
    obtain ⟨hopening, hclosing⟩ := bounds_of_mem_bracePairsFrom hother
    refine ⟨?_, Nat.ne_of_lt hclosing⟩
    rintro rfl
    rcases hopening with hmem | hle
    · exact hnew hmem
    · omega
  | case4 place rest _ ih => exact ih .nil (by simp)
  | case5 place opened c rest _ _ ih =>
    exact ih hnodup fun o ho => Nat.lt_succ_of_lt (hbefore o ho)

/-- A pair consists of an opening brace and a closing one behind it. -/
theorem braces_of_mem_bracePairsFrom {formula : Text} (htext : formula.drop place = text)
    (hopened : ∀ o ∈ opened, o < place ∧ formula[o]? = some '{') {pair : BracePair}
    (h : pair ∈ bracePairsFrom place opened text) :
    formula[pair.opening]? = some '{' ∧ formula[pair.closing]? = some '}' ∧
      pair.opening < pair.closing := by
  -- the text that is left says what stands at the place
  have hnext : ∀ {place : ℕ} {c : Char} {rest : Text}, formula.drop place = c :: rest →
      formula[place]? = some c ∧ formula.drop (place + 1) = rest := by
    intro place c rest hdrop
    rw [← List.head?_drop, ← List.drop_drop, hdrop]
    exact ⟨rfl, rfl⟩
  fun_induction bracePairsFrom place opened text with
  | case1 => cases h
  | case2 place opened rest ih =>
    refine ih (hnext htext).2 ?_ h
    intro o ho
    rcases List.mem_cons.mp ho with rfl | ho
    · exact ⟨Nat.lt_succ_self o, (hnext htext).1⟩
    · exact ⟨Nat.lt_succ_of_lt (hopened o ho).1, (hopened o ho).2⟩
  | case3 place rest opening outer _ ih =>
    rcases List.mem_cons.mp h with rfl | hlater
    · obtain ⟨hlt, hchar⟩ := hopened opening List.mem_cons_self
      exact ⟨hchar, (hnext htext).1, hlt⟩
    · refine ih (hnext htext).2 (fun o ho => ?_) hlater
      obtain ⟨hlt, hchar⟩ := hopened o (List.mem_cons_of_mem _ ho)
      exact ⟨Nat.lt_succ_of_lt hlt, hchar⟩
  | case4 place rest _ ih => exact ih (hnext htext).2 (by simp) h
  | case5 place opened c rest _ _ ih =>
    exact ih (hnext htext).2 (fun o ho => ⟨Nat.lt_succ_of_lt (hopened o ho).1, (hopened o ho).2⟩) h

/-- A pair consists of an opening brace and a closing brace behind it. -/
theorem braces_of_mem_bracePairs {formula : Text} {pair : BracePair} (h : pair ∈ bracePairs formula) :
    formula[pair.opening]? = some '{' ∧ formula[pair.closing]? = some '}' ∧
      pair.opening < pair.closing :=
  braces_of_mem_bracePairsFrom rfl (by simp) h

/-- A pair is known by either of its braces. -/
theorem bracePairs_eq_of_owns {formula : Text} {pair other : BracePair} {place : ℕ}
    (h : pair ∈ bracePairs formula) (h' : other ∈ bracePairs formula) (howns : pair.Owns place)
    (howns' : other.Owns place) : pair = other := by
  obtain ⟨hopening, hclosing, -⟩ := braces_of_mem_bracePairs h
  obtain ⟨hopening', hclosing', -⟩ := braces_of_mem_bracePairs h'
  by_contra hne
  have hapart : pair.Apart other := (pairwise_bracePairsFrom .nil (by simp)).forall h h' hne
  rcases howns with rfl | rfl <;> rcases howns' with heq | heq
  · exact hapart.1 heq
  · rw [heq, hclosing'] at hopening
    cases hopening
  · rw [heq, hopening'] at hclosing
    cases hclosing
  · exact hapart.2 heq

end

end WikiText.Formula
