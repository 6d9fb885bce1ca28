import WikiText.Ellipsis
import WikiText.Entity.Decode
import WikiText.Options
import WikiText.Unicode.Normalization

/-!
# Tidying

The last pass over a text without markup: character references are decoded, invisible characters are
removed, white space is reduced to single spaces and newlines, and the text is put into normalization
form C.
-/

namespace WikiText.Tidy

/-- Marks of direction, zero-width spaces and joiners, and the byte order mark. -/
def isInvisible (c : Char) : Bool :=
  ['\u200e', '\u200f', '\u200b', '\u200d', '\u200c', '\ufeff'].contains c

/-- Characters that are shown as a space and may stand beside one. -/
def isHorizontal (c : Char) : Bool :=
  [' ', '\t', '\r', '\u2002'].contains c

/-- A no-break space as a space, and any other character as it is. -/
def breakable (c : Char) : Char :=
  if c = '\u00a0' then ' ' else c

/-- Writes runs of newlines as one newline and removes the spaces before them. What comes together
because spaces are removed stays. -/
def closeLines : Text → Text
  | [] => []
  | c :: rest =>
    if c = '\n' then
      if rest.head? = some '\n' then closeLines rest else '\n' :: closeLines rest
    else if c = ' ' then
      -- a space goes if the rest, once it is closed itself, begins with a newline
      match closeLines rest with
      | '\n' :: kept => '\n' :: kept
      | kept => ' ' :: kept
    else c :: closeLines rest

/-- Reduces the white space of a text and removes invisible characters. -/
def reduceSpace (text : Text) : Text :=
  closeLines (Text.squeeze isHorizontal ((text.map breakable).filter (!isInvisible ·)))

/-- The last pass over a text without markup. -/
def tidy (options : Options) (text : Text) : Text :=
  let reduced := Ellipsis.tighten (reduceSpace (Entity.decode text))
  Unicode.nfc (if options.keepSpace then reduced else reduced.trim)

end WikiText.Tidy
