import WikiText.Html.Tag

/-!
# Layout tags

Tags that set blocks apart become newlines, and tags of table cells become spaces.
-/

namespace WikiText.Html

open Scanner

/-- The tags of blocks: boxes, table rows, tables and lists with their items. -/
def blockTag : Pattern Unit :=
  tagOf ["div", "tr", "li", "table", "dl", "ul", "ol"]

/-- The tags of terms and definitions, without attributes. -/
def definitionTag : Pattern Unit where
  opening := '<'
  body := do
    optional (one '/')
    firstOf [caseless "dd", caseless "dt"]
    blanks
    one '>'

/-- The tags of table cells. -/
def cellTag : Pattern Unit :=
  tagOf ["td", "th"]

/-- Turns layout tags into newlines and spaces. -/
def convertLayout (text : Text) : Text :=
  cellTag.replace [' '] (definitionTag.replace ['\n'] (blockTag.replace ['\n'] text))

end WikiText.Html
