import WikiText.Html.Tag

/-!
# Removal of tags

What is left of HTML after the passes that know an element: all tags, comments and declarations are
removed, or else only the placeholders that never show.
-/

namespace WikiText.Html

open Scanner

/-- A tag, comment or declaration: what begins with a slash, an exclamation mark or a letter. -/
def anyTag : Pattern Unit where
  opening := '<'
  body := do
    let _ ← satisfy fun c => c = '/' || c = '!' || c.isAlpha
    skipWhile (· ≠ '>')
    one '>'

/-- A closing tag with something in it. -/
def anyClosingTag : Pattern Unit where
  opening := '<'
  body := do
    one '/'
    skipWhile1 (· ≠ '>')
    one '>'

/-- The placeholder that keeps a text out of a transclusion. -/
def noinclude : Pattern Unit where
  opening := '<'
  body := do
    caseless "noinclude"
    blanks
    one '/'
    blanks
    one '>'

/-- The placeholder that separates markup from what would join it. -/
def nowiki : Pattern Unit where
  opening := '<'
  body := do
    exactly "nowiki"
    blanks
    exactly "/>"

/-- Removes tags, then the closing tags that have come together. -/
def stripTags (text : Text) : Text :=
  anyClosingTag.remove (anyTag.remove text)

end WikiText.Html
