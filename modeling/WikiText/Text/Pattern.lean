import WikiText.Text.Reading
import WikiText.Trace

/-!
# Patterns

A pattern is a construct that begins with one fixed character. `pieces` cuts a text into the
constructs found from the left, without overlaps, and the characters between them; every
replacement is a map over these pieces. A text without the opening character is all characters.
-/

namespace WikiText

/-- A construct of the markup: the character it begins with and how the rest of it is read. -/
structure Pattern (α : Type) where
  /-- The first character of the construct. -/
  opening : Char
  /-- Reads the construct after its first character. -/
  body : Scanner Char α

/-- A part of a text cut by a pattern. -/
inductive Piece (α : Type) where
  /-- A character outside of all constructs. -/
  | plain (c : Char)
  /-- A construct, by the value that was read. -/
  | found (value : α)
  deriving DecidableEq, Repr

namespace Pattern

variable {α : Type}

/-- Cuts a text into the constructs found from the left and the characters between them. -/
def pieces (pattern : Pattern α) : Text → List (Piece α)
  | [] => []
  | c :: tail =>
    if c = pattern.opening then
      match _h : pattern.body.run tail with
      | some (value, rest) => .found value :: pieces pattern rest
      | none => .plain c :: pieces pattern tail
    else .plain c :: pieces pattern tail
termination_by text => text.length
decreasing_by
  · exact Nat.lt_succ_of_le (pattern.body.suffix _h).length_le
  · exact Nat.lt_succ_self _
  · exact Nat.lt_succ_self _

/-- Replaces every construct by a text made from its value. -/
def replaceWith (pattern : Pattern α) (replacement : α → Text) (text : Text) : Text :=
  (pattern.pieces text).flatMap fun
    | .plain c => [c]
    | .found value => replacement value

/-- Replaces every construct by one text. -/
def replace (pattern : Pattern α) (replacement : Text) (text : Text) : Text :=
  pattern.replaceWith (fun _ => replacement) text

/-- Removes every construct. -/
def remove (pattern : Pattern α) (text : Text) : Text :=
  pattern.replace [] text

/-- Replaces every construct by a text computed from its value, noting events from the left. -/
def replaceTraced {ε : Type} (pattern : Pattern α) (replacement : α → Traced ε Text)
    (text : Text) : Traced ε Text := do
  let parts ← Traced.traverse
    (fun
      | .plain c => pure [c]
      | .found value => replacement value)
    (pattern.pieces text)
  return parts.flatten

/-- The stretches of plain characters before, between and after the constructs of a cut text. -/
def stretches : List (Piece α) → List Text
  | [] => [[]]
  | .found _ :: rest => [] :: stretches rest
  | .plain c :: rest =>
    match stretches rest with
    | [] => [[c]]
    | first :: others => (c :: first) :: others

end Pattern

end WikiText
