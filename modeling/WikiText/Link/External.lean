import WikiText.Link.Scheme
import WikiText.Text.Pattern

/-!
# External links

A link to another site stands in single brackets: its address, and then the words that are shown for
it. Resolving inner links may complete outer ones, so passes are made until no link is left; each
takes at least one opening bracket away.
-/

namespace WikiText.Link

open Scanner

/-- Whether a text begins with an address: two slashes, perhaps after one of three schemes, and
something more. -/
def beginsWithAddress (text : Text) : Bool :=
  let start : Scanner Char Unit := do
    optional (firstOf [exactly "http:", exactly "https:", exactly "mailto:"])
    exactly "//"
    let _ ← any
  (start.run text).isSome

/-- An external link, as the text between its brackets. -/
def external : Pattern Text where
  opening := '['
  body := do
    let content ← takeWhile fun c => c ≠ '[' && c ≠ ']'
    one ']'
    ofOption (if beginsWithAddress (Text.trimStart content) then some content else none)

/-- Words without the addresses at the front; of words that are all addresses, the last one. -/
def dropAddresses : List Text → List Text
  | word :: next :: rest =>
    if startsWithScheme word then dropAddresses (next :: rest) else word :: next :: rest
  | words => words

/-- What is shown for an external link. -/
def externalLabel (content : Text) : Text :=
  [' '].intercalate (dropAddresses content.words)

/-- Whether a text holds an external link. -/
def hasExternal (text : Text) : Bool :=
  (external.pieces text).any fun
    | .plain _ => false
    | .found _ => true

/-- Resolves external links in at most the given number of passes. -/
def resolveExternalUpTo : Nat → Text → Text
  | 0, text => text
  | passes + 1, text =>
    if hasExternal text then
      resolveExternalUpTo passes (external.replaceWith externalLabel text)
    else text

/-- Resolves external links until none is left. -/
def resolveExternal (text : Text) : Text :=
  resolveExternalUpTo (text.count '[') text

end WikiText.Link
