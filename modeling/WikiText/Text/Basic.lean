import WikiText.Unicode.WhiteSpace

/-!
# Texts

A text is a list of characters, so that every pass over it is a recursion on the list. This module
holds the cuts that know no markup: trimming, pieces, words and lines.
-/

namespace WikiText

/-- A text, character by character. -/
abbrev Text := List Char

namespace Text

open Unicode (isWhiteSpace)

/-- A text without the characters at its end that satisfy `p`. -/
def dropWhileEnd (p : Char → Bool) (text : Text) : Text :=
  text.foldr (fun c kept => if kept.isEmpty && p c then [] else c :: kept) []

/-- A text without the white space at its beginning. -/
def trimStart (text : Text) : Text :=
  text.dropWhile isWhiteSpace

/-- A text without the white space at its end. -/
def trimEnd (text : Text) : Text :=
  dropWhileEnd isWhiteSpace text

/-- A text without the white space around it. -/
def trim (text : Text) : Text :=
  trimEnd (trimStart text)

/-- The pieces of a text between the characters that satisfy `p`; always at least one. -/
def split (p : Char → Bool) : Text → List Text
  | [] => [[]]
  | c :: rest =>
    if p c then [] :: split p rest
    else match split p rest with
      | [] => [[c]]
      | piece :: pieces => (c :: piece) :: pieces

/-- The words of a text: its longest pieces without white space. -/
def words (text : Text) : List Text :=
  (split isWhiteSpace text).filter (!·.isEmpty)

/-- A text with each longest run of characters that satisfy `p` written as one space. -/
def squeeze (p : Char → Bool) : Text → Text
  | [] => []
  | c :: rest =>
    if p c then
      if rest.head?.any p then squeeze p rest else ' ' :: squeeze p rest
    else c :: squeeze p rest

/-- A line without the carriage return that may stand before its newline. -/
def withoutReturn (line : Text) : Text :=
  if line.getLast? = some '\r' then line.dropLast else line

/-- The lines of a text. What stands after the last newline is a line unless it is empty, and keeps
its carriage return, for no newline follows it. -/
def lines (text : Text) : List Text :=
  let pieces := split (· == '\n') text
  pieces.dropLast.map withoutReturn ++ pieces.getLast?.toList.filter (!·.isEmpty)

/-- Whether one text occurs in another. -/
def occursIn (part : Text) : Text → Bool
  | [] => part.isEmpty
  | c :: rest => part.isPrefixOf (c :: rest) || occursIn part rest

/-- How often two characters stand side by side, counted from the left so that no character is
counted twice. -/
def countPairs (first second : Char) : Text → Nat
  | [] => 0
  | [_] => 0
  | c :: d :: rest =>
    if c = first && d = second then countPairs first second rest + 1
    else countPairs first second (d :: rest)

end Text

end WikiText
