import WikiText.Text.Pattern

/-!
# Links in the margin

Addresses set as superscripts after a statement, and the links to edit a section, are not part of the
text.
-/

namespace WikiText.Link

open Scanner

/-- An address in parentheses after a caret, with or without a scheme and square brackets. -/
def raisedAddress : Pattern Unit where
  opening := '^'
  body := do
    one '('
    optional (one '[')
    optional (firstOf [exactly "http:", exactly "https:"])
    exactly "//"
    skipWhile1 fun c => c ≠ ']' && c ≠ '(' && c ≠ ')'
    optional (one ']')
    one ')'

/-- A link with the label "edit". -/
def editLink : Pattern Unit where
  opening := '['
  body := do
    exactly "//"
    skipWhile1 fun c => c ≠ ']' && !Unicode.isWhiteSpace c
    blanks1
    exactly "edit"
    blanks
    one ']'

/-- Removes raised addresses, then links to edit. -/
def removeMargin (text : Text) : Text :=
  editLink.remove (raisedAddress.remove text)

end WikiText.Link
