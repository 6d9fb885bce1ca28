/-!
# Alphabets

The letter shapes that a formula may ask for: script, Fraktur and double-struck. A character without
a form in the alphabet stays as it is; Fraktur has no I and no R of its own.
-/

namespace WikiText.Formula

/-- An alphabet of letter shapes. -/
inductive Alphabet where
  /-- Script capitals and small letters. -/
  | calligraphic
  /-- Fraktur capitals. -/
  | fraktur
  /-- Double-struck letters, digits and five Greek letters. -/
  | doubleStruck
  deriving DecidableEq, Repr

namespace Alphabet

/-- Script letters. -/
def scriptLetters : List (Char × Char) := [
  ('A', '𝒜'), ('B', 'ℬ'), ('C', '𝒞'), ('D', '𝒟'), ('E', 'ℰ'), ('F', 'ℱ'), ('G', '𝒢'), ('H', 'ℋ'),
  ('I', 'ℐ'), ('J', '𝒥'), ('K', '𝒦'), ('L', 'ℒ'), ('M', 'ℳ'), ('N', '𝒩'), ('O', '𝒪'), ('P', '𝒫'),
  ('Q', '𝒬'), ('R', 'ℛ'), ('S', '𝒮'), ('T', '𝒯'), ('U', '𝒰'), ('V', '𝒱'), ('W', '𝒲'), ('X', '𝒳'),
  ('Y', '𝒴'), ('Z', '𝒵'), ('a', '𝒶'), ('b', '𝒷'), ('c', '𝒸'), ('d', '𝒹'), ('e', 'ℯ'), ('f', '𝒻'),
  ('g', 'ℊ'), ('h', '𝒽'), ('i', '𝒾'), ('j', '𝒿'), ('k', '𝓀'), ('l', '𝓁'), ('m', '𝓂'), ('n', '𝓃'),
  ('o', 'ℴ'), ('p', '𝓅'), ('q', '𝓆'), ('r', '𝓇'), ('s', '𝓈'), ('t', '𝓉'), ('u', '𝓊'), ('v', '𝓋'),
  ('w', '𝓌'), ('x', '𝓍'), ('y', '𝓎'), ('z', '𝓏')]

/-- Fraktur letters. -/
def frakturLetters : List (Char × Char) := [
  ('A', '𝔄'), ('B', '𝔅'), ('C', 'ℭ'), ('D', '𝔇'), ('E', '𝔈'), ('F', '𝔉'), ('G', '𝔊'), ('H', 'ℌ'),
  ('J', '𝔍'), ('K', '𝔎'), ('L', '𝔏'), ('M', '𝔐'), ('N', '𝔑'), ('O', '𝔒'), ('P', '𝔓'), ('Q', '𝔔'),
  ('S', '𝔖'), ('T', '𝔗'), ('U', '𝔘'), ('V', '𝔙'), ('W', '𝔚'), ('X', '𝔛'), ('Y', '𝔜'), ('Z', 'ℨ')]

/-- Double-struck letters and digits. -/
def doubleStruckLetters : List (Char × Char) := [
  ('A', '𝔸'), ('B', '𝔹'), ('C', 'ℂ'), ('D', '𝔻'), ('E', '𝔼'), ('F', '𝔽'), ('G', '𝔾'), ('H', 'ℍ'),
  ('I', '𝕀'), ('J', '𝕁'), ('K', '𝕂'), ('L', '𝕃'), ('M', '𝕄'), ('N', 'ℕ'), ('O', '𝕆'), ('P', 'ℙ'),
  ('Q', 'ℚ'), ('R', 'ℝ'), ('S', '𝕊'), ('T', '𝕋'), ('U', '𝕌'), ('V', '𝕍'), ('W', '𝕎'), ('X', '𝕏'),
  ('Y', '𝕐'), ('Z', 'ℤ'), ('a', '𝕒'), ('b', '𝕓'), ('c', '𝕔'), ('d', '𝕕'), ('e', '𝕖'), ('f', '𝕗'),
  ('g', '𝕘'), ('h', '𝕙'), ('i', '𝕚'), ('j', '𝕛'), ('k', '𝕜'), ('l', '𝕝'), ('m', '𝕞'), ('n', '𝕟'),
  ('o', '𝕠'), ('p', '𝕡'), ('q', '𝕢'), ('r', '𝕣'), ('s', '𝕤'), ('t', '𝕥'), ('u', '𝕦'), ('v', '𝕧'),
  ('w', '𝕨'), ('x', '𝕩'), ('y', '𝕪'), ('z', '𝕫'), ('0', '𝟘'), ('1', '𝟙'), ('2', '𝟚'), ('3', '𝟛'),
  ('4', '𝟜'), ('5', '𝟝'), ('6', '𝟞'), ('7', '𝟟'), ('8', '𝟠'), ('9', '𝟡'), ('π', 'ℼ'), ('γ', 'ℽ'),
  ('Γ', 'ℾ'), ('Π', 'ℿ'), ('Σ', '⅀')]

/-- The alphabet that a command of the given name selects. -/
def ofCommand? (name : List Char) : Option Alphabet :=
  [("mathcal", calligraphic), ("mathfrak", fraktur), ("mathbb", doubleStruck)].lookup
    (String.ofList name)

/-- The letters of an alphabet, each with the character it is a shape of. -/
def letters : Alphabet → List (Char × Char)
  | calligraphic => scriptLetters
  | fraktur => frakturLetters
  | doubleStruck => doubleStruckLetters

/-- Writes a text in an alphabet, as far as it goes. -/
def apply (alphabet : Alphabet) (text : List Char) : List Char :=
  text.map fun c => (alphabet.letters.lookup c).getD c

end Alphabet

end WikiText.Formula
