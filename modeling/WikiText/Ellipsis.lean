import WikiText.Text.Pattern

/-!
# Ellipses

An omission is written as three dots in square brackets, with or without white space inside.
-/

namespace WikiText.Ellipsis

open Scanner

/-- Three dots in square brackets. -/
def dotted : Pattern Unit where
  opening := '['
  body := do
    blanks
    exactly "..."
    blanks
    one ']'

/-- The character for three dots in square brackets. -/
def spaced : Pattern Unit where
  opening := '['
  body := do
    blanks
    one '…'
    blanks
    one ']'

/-- Writes bracketed dots as the character for three dots. -/
def unbracket (text : Text) : Text :=
  dotted.replace ['…'] text

/-- Removes the white space around the character for three dots in square brackets. -/
def tighten (text : Text) : Text :=
  spaced.replace ['[', '…', ']'] text

end WikiText.Ellipsis
