import WikiText.Formula.Alphabet
import WikiText.Formula.Operand

/-!
# Tokens

The tokens of a formula, in the order in which they are tried at each place: white space, fractions,
idioms, and items. An item is an operand that may stand in a script and may be changed by a command
before it. Every atom belongs to a token: what nothing else claims is an item of its own.
-/

namespace WikiText.Formula

open Scanner

/-- Commands that take two operands. -/
inductive Ratio where
  /-- A numerator over a denominator. -/
  | fraction
  /-- A binomial coefficient. -/
  | binomial
  deriving DecidableEq, Repr

/-- The ratio that a command of the given name writes. -/
def Ratio.ofCommand? (name : Text) : Option Ratio :=
  [("frac", fraction), ("dfrac", fraction), ("tfrac", fraction), ("binom", binomial)].lookup
    (String.ofList name)

/-- Where a script stands. -/
inductive Shift where
  /-- Below the line. -/
  | lowered
  /-- Above the line. -/
  | raised
  deriving DecidableEq, Repr

/-- The character that introduces a script. -/
def Shift.mark : Shift → Char
  | lowered => '_'
  | raised => '^'

/-- A command that changes how the operand after it is shown. -/
inductive Modifier where
  /-- Another alphabet. -/
  | alphabet (alphabet : Alphabet)
  /-- Plain text. -/
  | text
  /-- The beginning or end of an environment, of which nothing is shown. -/
  | environment
  /-- A modulus in parentheses. -/
  | modulus
  /-- A root, with the degree that may stand in brackets. -/
  | root (degree : Option (List Atom))
  deriving DecidableEq, Repr

/-- The modifier that a command of the given name is, a root without its degree. -/
def Modifier.ofCommand? (name : Text) : Option Modifier :=
  ([("text", text), ("begin", environment), ("end", environment), ("pmod", modulus),
    ("sqrt", root none)].lookup (String.ofList name)).or
    ((Alphabet.ofCommand? name).map alphabet)

/-- A token of a formula. -/
inductive Token where
  /-- White space. -/
  | blank
  /-- A fraction or binomial coefficient with its two operands. -/
  | ratio (kind : Ratio) (upper lower : Operand)
  /-- A command for a fraction or binomial coefficient that two operands do not follow, as it is
  written. -/
  | broken (source : Text)
  /-- An idiom, by its symbol. -/
  | idiom (symbol : Text)
  /-- An operand with the modifier and the script that it stands in. -/
  | item (modifier : Option Modifier) (shift : Option Shift) (operand : Operand)
  deriving DecidableEq, Repr

/-- Reads the mark of a script. -/
def Shift.scanner : Scanner Atom Shift :=
  (do one (.char '_'); return lowered) <|> (do one (.char '^'); return raised)

/-- Reads the degree of a root in brackets, which end at the first closing one. -/
def Modifier.degree : Scanner Atom (List Atom) := do
  one (.char '[')
  upTo (one (.char ']'))

/-- Reads a modifier, with its degree if it is a root that has one, and the white space after it. -/
def Modifier.scanner : Scanner Atom Modifier := do
  let name ← command
  let modifier ← ofOption (ofCommand? name)
  let modifier ← match modifier with
    | .root _ => (do let atoms ← degree; return .root (some atoms)) <|> pure modifier
    | _ => pure modifier
  space
  return modifier

namespace Token

/-- Reads an operand with the script that it may stand in. A mark without an operand is one. -/
def scripted : Scanner Atom (Option Shift × Operand) :=
  (do let shift ← Shift.scanner; let operand ← Operand.scanner; return (some shift, operand))
    <|> (do let operand ← Operand.scanner; return (none, operand))

/-- Reads an item. A modifier without an operand is an ordinary command. -/
def itemScanner : Scanner Atom Token :=
  (do
    let modifier ← Modifier.scanner
    let (shift, operand) ← scripted
    return item (some modifier) shift operand)
  <|> (do
    let (shift, operand) ← scripted
    return item none shift operand)

/-- Reads a fraction or binomial coefficient. If it lacks an operand, the command alone is read, with
the white space after it. -/
def ratioScanner : Scanner Atom Token := do
  let name ← command
  let kind ← ofOption (Ratio.ofCommand? name)
  (do
    space
    let upper ← Operand.narrowScanner
    space
    let lower ← Operand.narrowScanner
    return ratio kind upper lower)
  <|> (do
    space
    return broken ('\\' :: name))

/-- Reads the next token. -/
def scanner : Scanner Atom Token :=
  (do skipWhile1 Atom.isBlank; return blank)
    <|> ratioScanner
    <|> (do let symbol ← Formula.idiom; return idiom symbol)
    <|> itemScanner

theorem consumes_scripted : scripted.Consumes :=
  .orElse (consumes_bind fun _ => Operand.consumes_scanner.bind _)
    (Operand.consumes_scanner.bind _)

theorem consumes_itemScanner : itemScanner.Consumes :=
  .orElse (consumes_bind fun _ => consumes_scripted.bind _) (consumes_scripted.bind _)

theorem consumes_scanner : scanner.Consumes := by
  refine .orElse ?_ (.orElse ?_ (.orElse ?_ consumes_itemScanner))
  · exact ((consumes_takeWhile1 _).bind _).bind _
  · exact consumes_command.bind _
  · exact consumes_idiom.bind _

/-- The tokens of a sequence of atoms. -/
def all (atoms : List Atom) : List Token :=
  match _h : scanner.run atoms with
  | some (token, rest) => token :: all rest
  | none => []
termination_by atoms.length
decreasing_by exact consumes_scanner _ _ _ _h

end Token

end WikiText.Formula
