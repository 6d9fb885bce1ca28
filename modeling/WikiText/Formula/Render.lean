import WikiText.Diagnostic
import WikiText.Formula.Flatten
import WikiText.Formula.Token
import WikiText.Script

/-!
# Rendering of formulas

A formula is flattened, cut into tokens, and the texts of the tokens are joined. Groups are rendered
before what surrounds them, and the degree of a root before its operand. A fraction whose operands
cannot be told apart is shown as it was written, and noted.

The degree of a root is itself a sequence of atoms, shorter than the one it stands in, so that the
length of a sequence bounds how deep roots stand in each other's degrees.
-/

namespace WikiText.Formula

/-- What is noted about a fraction or binomial coefficient without two operands. -/
def brokenRatio (source : Text) : Diagnostic where
  severity := .warning
  message := "cannot find two arguments for fraction or binomial"
  source := some (String.ofList source)
  suggestion := some "write the arguments as \x7bnumerator\x7d\x7bdenominator\x7d"

/-- A text in parentheses if it is longer than one character. -/
def parenthesize (text : Text) : Text :=
  if 1 < text.length then '(' :: text ++ [')'] else text

/-- The text of a ratio of two texts. -/
def Ratio.render (upper lower : Text) : Ratio → Text
  | fraction => upper ++ '/' :: lower
  | binomial => "binom(".toList ++ upper ++ ", ".toList ++ lower ++ [')']

/-- A text as a script of the given kind. -/
def Shift.render (text : Text) : Shift → Text
  | lowered => Script.toSubscript text
  | raised => Script.toSuperscript text

/-- The radical sign of a root of the given degree. Roots of degree 2, 3 and 4 have signs of their
own, and no degree means 2. -/
def radical (degree : Text) : Text :=
  if degree = [] || degree = ['2'] then ['√']
  else if degree = ['3'] then ['∛']
  else if degree = ['4'] then ['∜']
  else Script.toSuperscript degree ++ ['√']

/-- The text of an operand with a script set. -/
def shifted (shift : Option Shift) (operand : Operand) : Text :=
  match shift with
  | some shift => shift.render operand.render
  | none => operand.render

/-- The text of an operand with a script written out. -/
def marked (shift : Option Shift) (operand : Operand) : Text :=
  (shift.map Shift.mark).toList ++ operand.render

/-- The text of an operand that a modifier changes. `renderDegree` renders the degrees of roots. -/
def Modifier.render {ε : Type} (renderDegree : List Atom → Traced ε Text)
    (shift : Option Shift) (operand : Operand) : Modifier → Traced ε Text
  | alphabet letters => pure (letters.apply (marked shift operand).trim)
  | text => pure (marked shift operand)
  | environment => pure []
  | modulus => pure ("(mod ".toList ++ (shifted shift operand).trim ++ [')'])
  | root none => pure (radical [] ++ parenthesize (shifted shift operand).trim)
  | root (some degree) => do
    let degree ← renderDegree degree
    return radical degree.trim ++ parenthesize (shifted shift operand).trim

/-- The text of a token. `renderDegree` renders the degrees of roots. -/
def Token.render (renderDegree : List Atom → Traced Diagnostic Text) :
    Token → Traced Diagnostic Text
  | blank => pure []
  | ratio kind upper lower =>
    pure (kind.render (parenthesize upper.render.trim) (parenthesize lower.render.trim))
  | broken source => do
    Traced.note (brokenRatio source)
    return source
  | idiom symbol => pure symbol
  | item none shift operand => pure (shifted shift operand)
  | item (some modifier) shift operand => modifier.render renderDegree shift operand

/-- Whether a number would run together with the character before it. -/
def runsTogether (last : Option Char) (next : Char) : Bool :=
  next.isDigit && last.any fun c => Unicode.isAlphabetic c || c.isDigit

/-- Joins texts, with a space between a letter or digit and a following digit. `last` is the last
character before the texts. -/
def joinParts (last : Option Char) : List Text → Text
  | [] => []
  | [] :: rest => joinParts last rest
  | (c :: part) :: rest =>
    let joined := c :: part ++ joinParts ((c :: part).getLast?) rest
    if runsTogether last c then ' ' :: joined else joined

/-- Renders a sequence without pairs of braces, in which roots stand in each other's degrees less
than `depth` deep. -/
def renderFlatUpTo : Nat → List Atom → Traced Diagnostic Text
  | 0, _ => pure []
  | depth + 1, atoms => do
    let parts ← Traced.traverse (Token.render (renderFlatUpTo depth)) (Token.all atoms)
    return joinParts none parts

/-- Renders a sequence without pairs of braces that could become groups. -/
def renderFlat (atoms : List Atom) : Traced Diagnostic Text :=
  renderFlatUpTo (atoms.length + 1) atoms

/-- Renders a formula, noting what could not be interpreted. -/
def render (formula : Text) : Traced Diagnostic Text := do
  let flat ← flatten renderFlat (Atom.ofText formula)
  renderFlat flat

end WikiText.Formula
