import WikiText.Text.Basic
import WikiText.Trace

/-!
# Nesting of links

Links stand in double brackets and nest. A text is read once from the left: two opening brackets
always open a link, and two closing ones close the innermost open link unless a single bracket of its
label is still open. A link that is closed is resolved on its content, in which the links inside are
resolved already.

The scan keeps the text since the innermost open link apart from the texts before the open links, so
that what becomes of a link concerns the text before it and nothing else.
-/

namespace WikiText.Link

open Unicode (isWhiteSpace)

/-- What becomes of a link. -/
inductive Action where
  /-- The link becomes this text. -/
  | replace (text : Text)
  /-- The link goes, with the white space before it. -/
  | drop
  /-- The link stays as it is written. -/
  | keep
  deriving DecidableEq, Repr

/-- A link that is not closed yet. -/
structure OpenLink where
  /-- The text before the link, back to the link around it, in reverse. -/
  before : Text
  /-- How many single brackets are open in the label. -/
  brackets : Nat
  /-- Whether the label has begun. -/
  piped : Bool
  deriving DecidableEq, Repr

/-- A link after one more character of its content. Single brackets count once the label has
begun. -/
def OpenLink.see (link : OpenLink) (c : Char) : OpenLink :=
  if c = '|' && link.brackets = 0 then { link with piped := true }
  else if c = '[' && link.piped then { link with brackets := link.brackets + 1 }
  else if c = ']' then { link with brackets := link.brackets - 1 }
  else link

/-- The text after a closed link, back to the link around it. The text and the content of the link
are in reverse. -/
def OpenLink.close (link : OpenLink) (content : Text) : Action → Text
  | .replace text => text.reverseAux link.before
  | .drop => link.before.dropWhile isWhiteSpace
  | .keep => ']' :: ']' :: (content ++ '[' :: '[' :: link.before)

/-- Puts the opening brackets of links that were never closed back before a text. -/
def restoreOpen (text : Text) : List OpenLink → Text
  | [] => text
  | link :: outer => restoreOpen (link.before.reverseAux ('[' :: '[' :: text)) outer

/-- The open links after one more character in the innermost of them. -/
def seeInside (c : Char) : List OpenLink → List OpenLink
  | [] => []
  | link :: outer => link.see c :: outer

/-- Resolves the links of a text, where `inside` is the text since the innermost open link, in
reverse, and `links` are the open links, innermost first. -/
def resolveFrom {ε : Type} (resolve : Text → Traced ε Action) (inside : Text)
    (links : List OpenLink) : Text → Traced ε Text
  | [] => pure (restoreOpen inside.reverse links)
  | '[' :: '[' :: rest => resolveFrom resolve [] (⟨inside, 0, false⟩ :: links) rest
  | ']' :: ']' :: rest =>
    match links with
    | link :: outer =>
      if link.brackets = 0 then do
        let action ← resolve inside.reverse
        resolveFrom resolve (link.close inside action) outer rest
      else
        resolveFrom resolve (']' :: inside) (link.see ']' :: outer) (']' :: rest)
    | [] => resolveFrom resolve (']' :: inside) [] (']' :: rest)
  | c :: rest => resolveFrom resolve (c :: inside) (seeInside c links) rest

/-- Resolves the links of a text in one pass, inner links before the links around them. -/
def resolveOnce {ε : Type} (resolve : Text → Traced ε Action) (text : Text) : Traced ε Text :=
  resolveFrom resolve [] [] text

/-- Resolves links in at most `left` further passes, until a pass changes nothing. `pass` passes have
changed the text so far; `changed` notes each pass after the first that does, by its number. -/
def resolvePasses {ε : Type} (resolve : Text → Traced ε Action) (changed : Nat → ε) (pass : Nat) :
    Nat → Text → Traced ε Text
  | 0, text => pure text
  | left + 1, text => do
    let next ← resolveOnce resolve text
    if next = text then
      return text
    else
      if 0 < pass then Traced.note (changed (pass + 1))
      resolvePasses resolve changed (pass + 1) left next

/-- Resolves links until nothing changes, in at most one pass more than there are links opened. -/
def resolveAll {ε : Type} (resolve : Text → Traced ε Action) (changed : Nat → ε) (text : Text) :
    Traced ε Text :=
  resolvePasses resolve changed 0 (text.countPairs '[' '[' + 1) text

end WikiText.Link
