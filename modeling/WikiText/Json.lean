import WikiText.Scanner

/-!
# JSON

Values of the data format JSON and how they are read. Numbers keep the text they are written in.
A string may hold escapes that pair up to no character; such a string is a value without a text, so
that whoever needs the text can refuse it.
-/

namespace WikiText

/-- A value as it is written. -/
inductive Json where
  /-- The value `null`. -/
  | null
  /-- A truth value. -/
  | bool (value : Bool)
  /-- A number, as it is written. -/
  | number (literal : List Char)
  /-- A string, by its text if it has one. -/
  | string (text : Option (List Char))
  /-- A list of values. -/
  | array (items : List Json)
  /-- Members in the order written, each a name and a value. -/
  | object (members : List (Option (List Char) × Json))

namespace Json

open Scanner

/-! ## Strings -/

/-- A part of a string: a character, or a code unit of sixteen bits given by an escape. -/
inductive StringPart where
  /-- A character. -/
  | char (c : Char)
  /-- A code unit. -/
  | codeUnit (n : Nat)

/-- The text of the parts of a string, if every surrogate is one of a pair. -/
def textOf : List StringPart → Option (List Char)
  | [] => some []
  | .char c :: rest => (textOf rest).map (c :: ·)
  | .codeUnit high :: rest =>
    if high < 0xD800 || 0xDFFF < high then (textOf rest).map (Char.ofNat high :: ·)
    -- a surrogate: the first of a pair, or no character at all
    else match rest with
      | .codeUnit low :: rest =>
        if high ≤ 0xDBFF && 0xDC00 ≤ low && low ≤ 0xDFFF then
          (textOf rest).map
            (Char.ofNat (0x10000 + (high - 0xD800) * 0x400 + (low - 0xDC00)) :: ·)
        else none
      | _ => none

/-- The value of a hexadecimal digit. -/
def hexDigit? (c : Char) : Option Nat :=
  if '0' ≤ c && c ≤ '9' then some (c.toNat - '0'.toNat)
  else if 'a' ≤ c && c ≤ 'f' then some (c.toNat - 'a'.toNat + 10)
  else if 'A' ≤ c && c ≤ 'F' then some (c.toNat - 'A'.toNat + 10)
  else none

/-- Reads a hexadecimal digit. -/
def hexDigit : Scanner Char Nat := do
  let c ← any
  ofOption (hexDigit? c)

/-- The character that a letter behind a backslash stands for. -/
def escapes : List (Char × Char) := [
  ('"', '"'), ('\\', '\\'), ('/', '/'), ('b', '\x08'), ('f', '\x0c'), ('n', '\n'), ('r', '\r'),
  ('t', '\t')]

/-- Reads what stands behind a backslash. -/
def escaped : Scanner Char StringPart := do
  let c ← any
  if c = 'u' then
    let a ← hexDigit
    let b ← hexDigit
    let c ← hexDigit
    let d ← hexDigit
    return .codeUnit (((a * 16 + b) * 16 + c) * 16 + d)
  else
    let meant ← ofOption (escapes.lookup c)
    return .char meant

/-- Reads a part of a string. Control characters are not allowed in one. -/
def stringPart : Scanner Char StringPart := do
  let c ← satisfy fun c => c ≠ '"' && 0x20 ≤ c.toNat
  if c = '\\' then escaped else return .char c

/-- Reads a string, as its text if it has one. -/
def quoted : Scanner Char (Option (List Char)) := do
  one '"'
  let parts ← many stringPart
  one '"'
  return textOf parts

/-! ## Numbers -/

/-- Reads the digits before the point: a zero alone, or digits that begin with no zero. -/
def wholeDigits : Scanner Char Unit :=
  one '0' <|> do
    let _ ← satisfy fun c => '1' ≤ c && c ≤ '9'
    skipWhile Char.isDigit

/-- Reads a number, as it is written. -/
def numeral : Scanner Char (List Char) := do
  let (_, literal) ← withSource do
    optional (one '-')
    wholeDigits
    optional do
      one '.'
      skipWhile1 Char.isDigit
    optional do
      one 'e' <|> one 'E'
      optional (one '+' <|> one '-')
      skipWhile1 Char.isDigit
  return literal

/-! ## Values -/

/-- Skips white space as this format knows it. -/
def gap : Scanner Char Unit :=
  skipWhile fun c => c = ' ' || c = '\t' || c = '\n' || c = '\r'

/-- Reads items between brackets, with commas between the items. -/
def bracketed {α : Type} (opening closing : Char) (item : Scanner Char α) :
    Scanner Char (List α) := do
  one opening
  gap
  (do one closing; return []) <|> (do
    let first ← item
    gap
    let others ← many do
      one ','
      gap
      let next ← item
      gap
      return next
    one closing
    return first :: others)

/-- Reads a value in which lists and objects nest less than `depth` deep. -/
def valueUpTo : Nat → Scanner Char Json
  | 0 => ofOption none
  | depth + 1 =>
    (do matching (· == ·) "null".toList; return null)
    <|> (do matching (· == ·) "true".toList; return bool true)
    <|> (do matching (· == ·) "false".toList; return bool false)
    <|> (do let literal ← numeral; return number literal)
    <|> (do let text ← quoted; return string text)
    <|> (do
      let items ← bracketed '[' ']' do
        valueUpTo depth
      return array items)
    <|> (do
      let members ← bracketed '{' '}' do
        let name ← quoted
        gap
        one ':'
        gap
        let value ← valueUpTo depth
        return (name, value)
      return object members)

/-- Reads a value with nothing but white space around it. -/
def document (depth : Nat) : Scanner Char Json := do
  gap
  let value ← valueUpTo depth
  gap
  return value

/-- The value that a text writes, if it writes one and nothing else. Each level of nesting takes a
character, so the length of the text bounds the depth. -/
def parse? (text : List Char) : Option Json :=
  match (document (text.length + 1)).run text with
  | some (value, []) => some value
  | _ => none

end Json

end WikiText
