import WikiText.Formula.Atom
import WikiText.Trace

/-!
# Flattening

Braces are taken out of a formula from the inside. One pass finds every pair of braces with something
between them and no brace, and makes the pair a group; passes follow each other until no such pair is
left. A pair with nothing between it stays in the formula, and so does every pair around it.
-/

namespace WikiText.Formula

/-- A part of a formula as one pass sees it. -/
inductive Segment where
  /-- An atom outside of all innermost pairs of braces. -/
  | loose (atom : Atom)
  /-- The atoms between an innermost pair of braces, at least one. -/
  | braced (content : List Atom)
  deriving DecidableEq, Repr

/-- The atoms since an opening brace that turned out not to open an innermost pair. -/
def Segment.unopened : Option (List Atom) → List Segment
  | none => []
  | some held => .loose (.char '{') :: held.reverse.map .loose

/-- Cuts a formula at its innermost pairs of braces. `held` are the atoms since the last opening
brace that may still open a pair, last first. -/
def segmentsFrom (held : Option (List Atom)) : List Atom → List Segment
  | [] => Segment.unopened held
  | .char '{' :: rest => Segment.unopened held ++ segmentsFrom (some []) rest
  | .char '}' :: rest =>
    match held with
    | some (last :: others) => .braced (last :: others).reverse :: segmentsFrom none rest
    | _ => Segment.unopened held ++ .loose (.char '}') :: segmentsFrom none rest
  | atom :: rest =>
    match held with
    | some others => segmentsFrom (some (atom :: others)) rest
    | none => .loose atom :: segmentsFrom none rest

/-- Cuts a formula at its innermost pairs of braces. -/
def segments (atoms : List Atom) : List Segment :=
  segmentsFrom none atoms

/-- Whether a segment is the inside of a pair of braces. -/
def Segment.isBraced : Segment → Bool
  | loose _ => false
  | braced _ => true

/-- The atom that a segment becomes: itself, or the group of a rendered pair of braces. -/
def Segment.toAtom {ε : Type} (render : List Atom → Traced ε Text) :
    Segment → Traced ε Atom
  | loose atom => pure atom
  | braced content => do
    let rendered ← render content
    return .group (Atom.sourceOf content) rendered.trim

/-- How many atoms may stand before the rest of a formula while it is cut. -/
def heldLength : Option (List Atom) → Nat
  | none => 0
  | some held => held.length + 1

theorem length_unopened (held : Option (List Atom)) :
    (Segment.unopened held).length = heldLength held := by
  cases held <;> simp [Segment.unopened, heldLength]

theorem countP_unopened (held : Option (List Atom)) :
    (Segment.unopened held).countP Segment.isBraced = 0 := by
  cases held <;> simp [Segment.unopened, Segment.isBraced]

/-- A pair of braces and what is in it are three atoms at least, and become one segment. -/
theorem length_segmentsFrom (held : Option (List Atom)) (atoms : List Atom) :
    (segmentsFrom held atoms).length + 2 * (segmentsFrom held atoms).countP Segment.isBraced
      ≤ heldLength held + atoms.length := by
  fun_induction segmentsFrom held atoms with
  | case1 held =>
    simp [length_unopened, countP_unopened]
  | case2 held rest ih =>
    simp only [heldLength, List.length_nil] at ih
    simp [length_unopened, countP_unopened]
    omega
  | case3 rest last others ih =>
    simp only [heldLength] at ih
    simp [heldLength, Segment.isBraced, List.countP_cons]
    omega
  | case4 held rest _ ih =>
    simp only [heldLength] at ih
    simp [length_unopened, countP_unopened, Segment.isBraced]
    omega
  | case5 atom rest _ _ others ih =>
    simp only [heldLength, List.length_cons] at ih ⊢
    omega
  | case6 atom rest _ _ ih =>
    simp only [heldLength] at ih
    simp [heldLength, Segment.isBraced]
    omega

/-- One pass over a formula that is cut into segments: every innermost pair becomes a group. -/
def collapse {ε : Type} (render : List Atom → Traced ε Text) (parts : List Segment) :
    Traced ε (List Atom) :=
  Traced.traverse (Segment.toAtom render) parts

theorem length_collapse {ε : Type} (render : List Atom → Traced ε Text) (atoms : List Atom)
    (h : (segments atoms).any Segment.isBraced) :
    (collapse render (segments atoms)).value.length < atoms.length := by
  have bound := length_segmentsFrom none atoms
  have found : 0 < (segmentsFrom none atoms).countP Segment.isBraced :=
    List.countP_pos_iff.mpr (List.any_eq_true.mp h)
  simp only [heldLength] at bound
  rw [collapse, Traced.length_traverse, segments]
  omega

/-- Passes over a formula until no pair of braces is left that could become a group. -/
def flatten {ε : Type} (render : List Atom → Traced ε Text) (atoms : List Atom) :
    Traced ε (List Atom) :=
  let parts := segments atoms
  if _h : parts.any Segment.isBraced then
    let pass := collapse render parts
    let flat := flatten render pass.value
    ⟨flat.value, pass.trace ++ flat.trace⟩
  else
    pure atoms
termination_by atoms.length
decreasing_by exact length_collapse render atoms _h

end WikiText.Formula
