import WikiText.Link.Nesting
import WikiText.Namespaces.Basic

/-!
# Reading of links

What the content of a link says is shown in its place. The forms are tried in this order: a category,
a plain target, a target with a namespace or a single bar at its end, and a target with a label or
with the parameters of an image. A content that has none of these forms is not a link.
-/

namespace WikiText.Link

open Unicode (isWhiteSpace isWordChar)

/-- What is shown in the place of a link. -/
inductive Reading where
  /-- Nothing, and no white space before it: the link is a category. -/
  | category
  /-- Nothing. -/
  | hidden
  /-- A text, once it is cleaned. -/
  | shown (label : Text)
  /-- The description of an image, once it is cleaned. -/
  | pictured (description : Text)
  /-- The link itself, for it has no known form. -/
  | unknown
  deriving DecidableEq, Repr

/-- Whether a character is one of a given text. -/
def isOneOf (characters : String) (c : Char) : Bool :=
  characters.toList.contains c

/-! ## Links without a label -/

/-- Whether a text is empty or a section: a number sign and no bracket or bar. -/
def endsPlain : Text → Bool
  | [] => true
  | c :: name => c = '#' && !name.any (isOneOf "[]|<>")

/-- The target of a link that is nothing but a page, a colon before it and a section after it left
out. A target of white space is its last character, or its first after a colon. -/
def plainTarget? (content : Text) : Option Text :=
  let body := content.trimStart
  let colon := body.head? = some ':'
  let page := if colon then body.drop 1 else body
  let target := page.takeWhile (!isOneOf "]|#<>:&" ·)
  if !endsPlain (page.dropWhile (!isOneOf "]|#<>:&" ·)) then none
  else if target.isEmpty then
    -- only the white space at the beginning is left to be a target
    if colon then none else (content.takeWhile isWhiteSpace).getLast?.map ([·])
  else
    let trimmed := Text.trimEnd target
    some (if trimmed.isEmpty then target.take 1 else trimmed)

/-- Whether a text is empty, a section or a bar, or a section and a bar. -/
def endsQualified (text : Text) : Bool :=
  let after := if text.head? = some '#' then text.dropWhile (!isOneOf "[]|" ·) else text
  after = [] || after = ['|']

/-- Whether a link has no label: its target is a page, with or without a namespace, and a section and
a single bar may follow. -/
def isUnlabelled (content : Text) : Bool :=
  let body := content.trimStart
  endsQualified (body.dropWhile (!isOneOf "[]#|<>" ·))
    && (!(body.takeWhile (!isOneOf "[]#|<>" ·)).isEmpty || content.head?.any isWhiteSpace)

/-- The namespace and the page of a link without a label, if it has both. A page of white space is
its last character. -/
def qualified? (content : Text) : Option (Text × Text) :=
  let body := content.trimStart
  let space := body.takeWhile isWordChar
  match Text.trimStart (body.dropWhile isWordChar) with
  | ':' :: target =>
    -- white space around the page is not part of it, unless the page is nothing else
    let named := Text.trimStart target
    let trimmed := Text.trimEnd (named.takeWhile (!isOneOf "[]#|<>" ·))
    let page :=
      if trimmed.isEmpty then (target.takeWhile isWhiteSpace).getLast?.toList else trimmed
    if space.isEmpty || page.isEmpty
        || !endsQualified (named.dropWhile (!isOneOf "[]#|<>" ·)) then none
    else some (space, page)
  | _ => none

/-- The target of a link as it is written, without spaces and brackets around it, without what
follows a bar, and without one colon before it. -/
def writtenTarget (content : Text) : Text :=
  let inner := Text.dropWhileEnd (isOneOf " []") (content.dropWhile (isOneOf " []"))
  match inner.takeWhile (· ≠ '|') with
  | ':' :: target => target
  | target => target

/-- The namespaces of other wikis that are not shown. -/
def hiddenSpaces : List Text := [['w'], ['s']]

/-! ## Links with a label -/

/-- The depth of single brackets after a character. -/
def depthAfter (depth : Nat) (c : Char) : Nat :=
  if c = '[' then depth + 1 else if c = ']' then depth - 1 else depth

/-- The pieces of a text between the bars outside of single brackets, where `depth` brackets are
open. -/
def splitBars (depth : Nat) : Text → List Text
  | [] => [[]]
  | c :: rest =>
    if c = '|' && depth = 0 then [] :: splitBars 0 rest
    else match splitBars (depthAfter depth c) rest with
      | [] => [[c]]
      | piece :: pieces => (c :: piece) :: pieces

/-- Parameters of an image that place it outside of the line. -/
def placements : List String := ["right", "left", "center", "thumb", "frame"]

/-- The description of an image that a parameter gives. -/
def description? (parameter : Text) : Option Text :=
  let name : Scanner Char Unit := do
    Scanner.blanks
    Scanner.exactly "alt"
    Scanner.blanks
    Scanner.one '='
  (name.run parameter).bind fun (_, text) => if text.isEmpty then none else some (Text.trim text)

/-- What the parameters of an image say: it is shown by its description if it stands in the line. -/
def readImage (parameters : List Text) : Reading :=
  let placed := parameters.any fun parameter =>
    placements.contains (String.ofList parameter.trim)
  match parameters.findSome? description? with
  | some description =>
    if placed || description.isEmpty then .hidden else .pictured description
  | none => .hidden

/-- What a target and the parameters after it say. The label is the last parameter that is not
blank. -/
def readPiped (namespaces : Namespaces) (target : Text) (parameters : List Text) : Reading :=
  if parameters.isEmpty || target.isEmpty || target.any (isOneOf "[]|<>") then .unknown
  else if parameters.any fun parameter =>
      Text.occursIn ['[', '['] parameter || Text.occursIn [']', ']'] parameter then .unknown
  else if namespaces.isFile target then readImage parameters
  else
    match (parameters.reverse.map Text.trim).find? (!·.isEmpty) with
    | some label => .shown label
    | none => .unknown

/-! ## All links -/

/-- What the content of a link says. -/
def read (namespaces : Namespaces) (content : Text) : Reading :=
  if namespaces.isCategory content then .category
  else match plainTarget? content with
    | some target => .shown target
    | none =>
      match qualified? content with
      | some (space, page) =>
        if namespaces.isFile (space ++ [':']) then .hidden
        else if hiddenSpaces.contains space then .shown page
        else .shown (writtenTarget content)
      | none =>
        if isUnlabelled content then .shown (writtenTarget content)
        else
          match splitBars 0 content with
          | target :: parameters => readPiped namespaces target parameters
          | [] => .unknown

/-- What becomes of a link that says this. Texts that are shown are cleaned first. -/
def Reading.act {ε : Type} (clean : Text → Traced ε Text) : Reading → Traced ε Action
  | category => pure .drop
  | hidden => pure (.replace [])
  | shown label => do
    let text ← clean label
    return .replace text
  | pictured description => do
    let text ← clean description
    return .replace ("[Alt: ".toList ++ text ++ [']'])
  | unknown => pure .keep

/-- What becomes of a link, by its content. -/
def classify {ε : Type} (namespaces : Namespaces) (clean : Text → Traced ε Text)
    (content : Text) : Traced ε Action :=
  (read namespaces content).act clean

end WikiText.Link
