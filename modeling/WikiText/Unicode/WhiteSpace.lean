import WikiText.Unicode.Interval

/-!
# White space

The `White_Space` property. It holds of the no-break space and of the typographic spaces, and not
of the zero-width ones.
-/

namespace WikiText.Unicode

/-- The code points with the property `White_Space`. -/
def whiteSpace : Intervals := [
  (0x9, 0xD), (0x20, 0x20), (0x85, 0x85), (0xA0, 0xA0), (0x1680, 0x1680), (0x2000, 0x200A),
  (0x2028, 0x2029), (0x202F, 0x202F), (0x205F, 0x205F), (0x3000, 0x3000)]

/-- Whether a character is white space. -/
def isWhiteSpace (c : Char) : Bool :=
  whiteSpace.contains c.toNat

end WikiText.Unicode
