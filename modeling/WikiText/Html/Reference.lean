import WikiText.Html.Tag

/-!
# References

Footnotes stand in the text where they are cited, either as a `<ref name="…"/>` that repeats an
earlier one or as a pair of tags around the note.
-/

namespace WikiText.Html

open Scanner

/-- A tag that repeats a named note. -/
def namedReference : Pattern Unit where
  opening := '<'
  body := do
    exactly "ref"
    blanks1
    exactly "name=\""
    skipWhile1 (· ≠ '"')
    one '"'
    blanks
    exactly "/>"

/-- A note between its tags. A tag with a slash in it is not the beginning of one. -/
def pairedReference : Pattern Text where
  opening := '<'
  body := do
    caseless "ref"
    wordEnd
    skipWhile fun c => c ≠ '>' && c ≠ '/'
    one '>'
    upTo (closeTag "ref")

/-- Removes repeated notes, then notes with their text. -/
def removeReferences (text : Text) : Text :=
  pairedReference.remove (namedReference.remove text)

end WikiText.Html
