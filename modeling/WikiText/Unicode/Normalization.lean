import WikiText.Unicode.CombiningClass
import WikiText.Unicode.Composition

/-!
# Normalization form C

A text is decomposed, the marks after each starter are put in the order of their classes, and what
has a composite is composed again. The order of marks of one class is kept, and a mark composes with
its starter only if no mark of its own class, or of a higher one, stands between them.
-/

namespace WikiText.Unicode

/-- The full canonical decomposition of a text, marks in the order written. -/
def decompose (text : List Char) : List Char :=
  text.flatMap decomposition

/-- Puts a character before a text whose marks are in order: a mark moves behind the marks of
lower classes that follow it, a starter stays. -/
def insertMark (c : Char) : List Char → List Char
  | [] => [c]
  | d :: rest =>
    if 0 < combiningClass d && combiningClass d < combiningClass c then d :: insertMark c rest
    else c :: d :: rest

/-- Puts the marks after each starter in the order of their classes. -/
def orderMarks (text : List Char) : List Char :=
  text.foldr insertMark []

/-- Composes the text that follows a starter. `held` are the marks since the starter that did not
compose with it, last first, and `last` is the class of the last of them. -/
def composeAfter (starter : Char) (held : List Char) (last : Nat) : List Char → List Char
  | [] => starter :: held.reverse
  | c :: rest =>
    let k := combiningClass c
    -- between the starter and this character there may be marks of lower classes only
    let reached := held.isEmpty || last < k
    match if reached then compose? starter c else none with
    | some composite => composeAfter composite held last rest
    | none =>
      if k = 0 then starter :: held.reverseAux (composeAfter c [] 0 rest)
      else composeAfter starter (c :: held) k rest

/-- Composes a decomposed text whose marks are in order. Marks before the first starter stay. -/
def compose : List Char → List Char
  | [] => []
  | c :: rest => if combiningClass c = 0 then composeAfter c [] 0 rest else c :: compose rest

/-- Normalization form C of a text. -/
def nfc (text : List Char) : List Char :=
  compose (orderMarks (decompose text))

end WikiText.Unicode
