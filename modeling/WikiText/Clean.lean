import WikiText.Emphasis
import WikiText.Event
import WikiText.Formula.Render
import WikiText.Html.Block
import WikiText.Html.Floating
import WikiText.Html.Inline
import WikiText.Html.Notice
import WikiText.Html.Reference
import WikiText.Html.Strip
import WikiText.Link.External
import WikiText.Link.Margin
import WikiText.Link.Reading
import WikiText.Table
import WikiText.Tidy

/-!
# Cleaning

A text with wiki markup becomes plain text. The passes run in a fixed order, for the later ones rely
on the earlier: tables go before tags, tags before links, links before emphasis, and references to
characters are decoded last, so that what they spell is not read as markup.

The contents of scripts and the labels of links are cleaned by themselves. `cleanWith` is one call of
the cleaner over a function for these nested calls, and `clean` closes the circle. A nested text has
fewer characters that may open a construct than the text it comes from, so their number bounds how
deep calls nest. The text itself may be longer, for a command may stand for a longer symbol.
-/

namespace WikiText

/-- Whether a character may open a construct, by itself or once it is decoded, rendered or composed.
The sign for "not less than" is the composite of an opening angle bracket. -/
def isOpener (c : Char) : Bool :=
  ['<', '[', '&', '\\', '\u226e'].contains c

/-- The number of characters of a text that may open a construct. -/
def openers (text : Text) : Nat :=
  text.countP isOpener

section

variable {ε : Type} (note : Event → ε) (namespaces : Namespaces)
  (nested : Options → Text → Traced ε Text)

/-- The passes before scripts and formulas: placeholders, tables, and what of HTML is removed or
turned into white space. -/
def removeLayout (text : Text) : Text :=
  let text := Table.removeAll (Html.nowiki.remove text)
  let text := Html.unwrapSpans (Html.removeReferences text)
  let text := Html.removeFloating (Html.convertLineBreaks text)
  Html.convertLayout (Html.removeNotices text)

/-- Renders the elements whose content is shown in another way: scripts, chemical and mathematical
formulas, and source code. -/
def renderElements (text : Text) : Traced ε Text := do
  let script (convert : Text → Text) (content : Text) : Traced ε Text := do
    let inner ← nested .plain content
    return convert inner
  let text := (Html.blankElement "sup").remove text
  let text ← (Html.element "sup").replaceTraced (script Script.toSuperscript) text
  let text := (Html.blankElement "sub").remove text
  let text ← (Html.element "sub").replaceTraced (script Script.toSubscript) text
  let text ← (Html.element "chem").replaceTraced (script Script.toChemical) text
  let text ← (Html.element "math").replaceTraced
    (fun formula => (Formula.render formula).mapTrace fun d => note (.diagnostic d)) text
  return (Html.element "syntaxhighlight").replaceWith
    (fun code => '\n' :: Text.trim code ++ ['\n']) text

/-- Resolves the links of a text, whose labels keep the white space around them. -/
def resolveLinks (options : Options) (text : Text) : Traced ε Text :=
  if Text.occursIn ['[', '['] text then do
    Traced.note (note (.namesNeeded namespaces.files.length namespaces.categories.length))
    Link.resolveAll
      (Link.classify namespaces (nested { options with keepSpace := true }))
      (fun pass => note (.linkPass pass)) text
  else
    pure text

/-- One call of the cleaner, where `nested` cleans the contents of scripts and the labels of links and
`note` translates the events. -/
def cleanWith (options : Options) (text : Text) : Traced ε Text := do
  let text ← renderElements note nested (removeLayout text)
  let text := if options.keepTags then Html.noinclude.remove text else Html.stripTags text
  let text := Link.removeMargin (Ellipsis.unbracket text)
  let text ← resolveLinks note namespaces nested options text
  return Tidy.tidy options (Emphasis.stripAll (Link.resolveExternal text))

end

/-- Cleans a text in which calls nest less than `depth` deep. -/
def cleanUpTo (namespaces : Namespaces) : Nat → Options → Text → Traced Event Text
  | 0, _, text => pure text
  | depth + 1, options, text => cleanWith id namespaces (cleanUpTo namespaces depth) options text

/-- Cleans a text. -/
def clean (namespaces : Namespaces) (options : Options) (text : Text) : Traced Event Text :=
  cleanUpTo namespaces (openers text + 1) options text

/-- Cleans each line of a text by itself. Lines of which nothing is left are dropped. -/
def cleanLines (namespaces : Namespaces) (options : Options) (text : Text) : Traced Event Text := do
  let lines ← Traced.traverse (clean namespaces options) text.lines
  return ['\n'].intercalate (lines.filter (!·.isEmpty))

/-- Cleans a text of an English wiki. -/
def cleanEnglish (options : Options) (text : Text) : Text :=
  (clean .canonical options text).value

end WikiText
