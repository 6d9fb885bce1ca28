import WikiText.Text.Pattern

/-!
# Tags

How the tags of one element are written: a name in capital or small letters that no word character
follows, and anything up to the next `>`. A closing tag holds nothing but its name and white space.
A tag is not told from a text that looks like one, and attributes may hold anything but `>`.
-/

namespace WikiText.Html

open Scanner

/-- Reads an opening tag of the given name after its `<`. -/
def openTag (name : String) : Scanner Char Unit := do
  caseless name
  wordEnd
  skipWhile (· ≠ '>')
  one '>'

/-- Reads a closing tag of the given name, its `<` included. -/
def closeTag (name : String) : Scanner Char Unit := do
  exactly "</"
  caseless name
  blanks
  one '>'

/-- An element of the given name, read as its content: the text from its opening tag to the first
closing tag of that name. -/
def element (name : String) : Pattern Text where
  opening := '<'
  body := do
    openTag name
    upTo (closeTag name)

/-- An element of the given name with nothing but white space in it. -/
def blankElement (name : String) : Pattern Unit where
  opening := '<'
  body := do
    openTag name
    blanks
    closeTag name

/-- An opening or closing tag of one of the given names, with anything up to the next `>`. -/
def tagOf (names : List String) : Pattern Unit where
  opening := '<'
  body := do
    optional (one '/')
    firstOf (names.map openTag)

end WikiText.Html
