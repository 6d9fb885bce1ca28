import WikiText.Unicode.Numeric
import WikiText.Text.Basic

/-!
# Atoms

A formula is a sequence of atoms: the characters of its source, and groups, each of which stands for
one braced part of the source and carries both that source and what the part is rendered as.
-/

namespace WikiText.Formula

/-- An element of a formula. -/
inductive Atom where
  /-- A character of the source. -/
  | char (c : Char)
  /-- A braced part: its source without the braces, and its rendering. -/
  | group (source rendered : Text)
  deriving DecidableEq, Repr

namespace Atom

/-- The source text that an atom stands for. -/
def source : Atom → Text
  | char c => [c]
  | group text _ => '{' :: text ++ ['}']

/-- Whether an atom is a character with a property; groups have none. -/
def isCharOf (p : Char → Bool) : Atom → Bool
  | char c => p c
  | group _ _ => false

/-- Whether an atom is white space. -/
def isBlank : Atom → Bool :=
  isCharOf Unicode.isWhiteSpace

/-- Whether an atom is a letter of a command name. -/
def isLetter : Atom → Bool :=
  isCharOf Char.isAlpha

/-- Whether an atom is a letter or numeral of a word. -/
def isWordChar : Atom → Bool :=
  isCharOf Unicode.isAlphanumeric

/-- The source text that a sequence of atoms stands for. -/
def sourceOf (atoms : List Atom) : Text :=
  atoms.flatMap source

/-- The atoms of a source text. -/
def ofText (text : Text) : List Atom :=
  text.map char

end Atom

end WikiText.Formula
