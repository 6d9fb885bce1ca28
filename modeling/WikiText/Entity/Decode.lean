import WikiText.Entity.Names
import WikiText.Text.Pattern

/-!
# Decoding of character references

A reference is an ampersand, a body without ampersands, and a semicolon. The body is a name, a
number sign with decimal digits, or a number sign with `x` and hexadecimal digits. A body that
stands for no character leaves the reference as text. References are decoded once: what a decoded
character forms with its neighbours is not looked at.
-/

namespace WikiText.Entity

/-- The value of a digit in the base, if it is one. -/
def digitValue? (base : Nat) (c : Char) : Option Nat :=
  let value :=
    if '0' ≤ c && c ≤ '9' then some (c.toNat - '0'.toNat)
    else if 'a' ≤ c && c ≤ 'f' then some (c.toNat - 'a'.toNat + 10)
    else if 'A' ≤ c && c ≤ 'F' then some (c.toNat - 'A'.toNat + 10)
    else none
  value.filter (· < base)

/-- The number written by a text of digits, which must not be empty. -/
def number? (base : Nat) (digits : Text) : Option Nat :=
  if digits.isEmpty then none
  else digits.foldlM (fun n c => (digitValue? base c).map (n * base + ·)) 0

/-- The character with a code point, unless it is a surrogate, out of range, or a control character
below the space that is not tab, newline, form feed or carriage return. -/
def ofCodePoint? (n : Nat) : Option Char :=
  if n < 0x20 && !([0x9, 0xA, 0xC, 0xD].contains n) then none
  else if h : n.isValidChar then some (Char.ofNatAux n h)
  else none

/-- The character that the body of a reference stands for. -/
def ofBody? : Text → Option Char
  | '#' :: 'x' :: digits => (number? 16 digits).bind ofCodePoint?
  | '#' :: 'X' :: digits => (number? 16 digits).bind ofCodePoint?
  | '#' :: digits => (number? 10 digits).bind ofCodePoint?
  | name => named? name

/-- Reads the body of a reference and its semicolon. -/
def reference : Scanner Char Char := do
  let body ← Scanner.takeWhile fun c => c ≠ ';' && c ≠ '&'
  Scanner.one ';'
  Scanner.ofOption (ofBody? body)

/-- A character reference that stands for a character. -/
def pattern : Pattern Char where
  opening := '&'
  body := reference

/-- Replaces each character reference by its character. -/
def decode (text : Text) : Text :=
  pattern.replaceWith (fun c => [c]) text

end WikiText.Entity
