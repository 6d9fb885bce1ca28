import WikiText.Html.Tag

/-!
# Spans and line breaks

Spans are replaced by their content, and a line break by the newline that it is shown as.
-/

namespace WikiText.Html

open Scanner
open Unicode (isWhiteSpace)

/-- Replaces each span by its content, without white space at its end and with one space for each
other run of white space. A span ends at the first closing tag, whatever was opened in it. -/
def unwrapSpans (text : Text) : Text :=
  (element "span").replaceWith (fun content => (Text.trimEnd content).squeeze isWhiteSpace) text

/-- A line break and the newlines after it. -/
def lineBreak : Pattern Unit where
  opening := '<'
  body := do
    caseless "br"
    blanks
    optional (one '/')
    one '>'
    skipWhile (· == '\n')

/-- Trims the white space at the end of all stretches but the last and puts newlines between. -/
def joinLines : List Text → Text
  | [] => []
  | [last] => last
  | stretch :: rest => Text.trimEnd stretch ++ '\n' :: joinLines rest

/-- Replaces each line break, with the white space before it and the newlines after it, by one
newline. -/
def convertLineBreaks (text : Text) : Text :=
  joinLines (Pattern.stretches (lineBreak.pieces text))

end WikiText.Html
