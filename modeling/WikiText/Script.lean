import WikiText.Text.Basic

/-!
# Superscripts and subscripts

A text is set as a script with the raised or lowered forms of its characters. If one character has
no such form, the whole text is written after a caret or an underscore instead, in parentheses
unless it is one character, so that the two notations are never mixed.
-/

namespace WikiText.Script

/-- The raised form of a character. All dashes share one, and infinity is set as a space and a
combining mark. -/
def superscripts : List (Char × String) := [
  ('0', "⁰"), ('1', "¹"), ('2', "²"), ('3', "³"), ('4', "⁴"), ('5', "⁵"), ('6', "⁶"), ('7', "⁷"),
  ('8', "⁸"), ('9', "⁹"), ('+', "⁺"), ('-', "⁻"), ('−', "⁻"), ('‐', "⁻"), ('–', "⁻"), ('—', "⁻"),
  ('一', "⁻"), ('=', "⁼"), ('(', "⁽"), (')', "⁾"), ('A', "ᴬ"), ('B', "ᴮ"), ('D', "ᴰ"), ('E', "ᴱ"),
  ('G', "ᴳ"), ('H', "ᴴ"), ('I', "ᴵ"), ('J', "ᴶ"), ('K', "ᴷ"), ('L', "ᴸ"), ('M', "ᴹ"), ('N', "ᴺ"),
  ('O', "ᴼ"), ('P', "ᴾ"), ('R', "ᴿ"), ('T', "ᵀ"), ('U', "ᵁ"), ('V', "ⱽ"), ('W', "ᵂ"), ('a', "ᵃ"),
  ('b', "ᵇ"), ('c', "ᶜ"), ('d', "ᵈ"), ('e', "ᵉ"), ('f', "ᶠ"), ('g', "ᵍ"), ('h', "ʰ"), ('i', "ⁱ"),
  ('j', "ʲ"), ('k', "ᵏ"), ('l', "ˡ"), ('m', "ᵐ"), ('n', "ⁿ"), ('o', "ᵒ"), ('p', "ᵖ"), ('r', "ʳ"),
  ('s', "ˢ"), ('t', "ᵗ"), ('u', "ᵘ"), ('v', "ᵛ"), ('w', "ʷ"), ('x', "ˣ"), ('y', "ʸ"), ('z', "ᶻ"),
  ('β', "ᵝ"), ('γ', "ᵞ"), ('δ', "ᵟ"), ('θ', "ᶿ"), ('ι', "ᶥ"), ('φ', "ᵠ"), ('χ', "ᵡ"),
  ('∞', "\u2002\u1ab2")]

/-- The lowered form of a character. -/
def subscripts : List (Char × String) := [
  ('0', "₀"), ('1', "₁"), ('2', "₂"), ('3', "₃"), ('4', "₄"), ('5', "₅"), ('6', "₆"), ('7', "₇"),
  ('8', "₈"), ('9', "₉"), ('+', "₊"), ('-', "₋"), ('−', "₋"), ('=', "₌"), ('(', "₍"), (')', "₎"),
  ('a', "ₐ"), ('e', "ₑ"), ('h', "ₕ"), ('i', "ᵢ"), ('j', "ⱼ"), ('k', "ₖ"), ('l', "ₗ"), ('m', "ₘ"),
  ('n', "ₙ"), ('o', "ₒ"), ('p', "ₚ"), ('r', "ᵣ"), ('s', "ₛ"), ('t', "ₜ"), ('u', "ᵤ"), ('v', "ᵥ"),
  ('x', "ₓ"), ('ə', "ₔ"), ('ρ', "ᵨ"), ('φ', "ᵩ"), ('χ', "ᵪ")]

/-- The form of a character in a table. -/
def form? (table : List (Char × String)) (c : Char) : Option Text :=
  (table.lookup c).map String.toList

/-- A text in the forms of a table, or else behind a marker. -/
def convert (table : List (Char × String)) (marker : Char) (text : Text) : Text :=
  match text.mapM (form? table) with
  | some forms => forms.flatten
  | none =>
    match text with
    | [c] => [marker, c]
    | _ => marker :: '(' :: text ++ [')']

/-- A text as a superscript. -/
def toSuperscript (text : Text) : Text :=
  convert superscripts '^' text

/-- A text as a subscript. -/
def toSubscript (text : Text) : Text :=
  convert subscripts '_' text

/-- A chemical formula: its decimal digits are set as subscripts, one by one. -/
def toChemical (text : Text) : Text :=
  text.flatMap fun c => if c.isDigit then toSubscript [c] else [c]

end WikiText.Script
