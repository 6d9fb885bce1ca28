/-!
# Options

What a caller may keep of a text that is cleaned.
-/

namespace WikiText

/-- The options of one call of the cleaner. -/
structure Options where
  /-- Whether white space around the text stays. -/
  keepSpace : Bool
  /-- Whether tags stay that no pass knows. -/
  keepTags : Bool
  deriving DecidableEq, Repr

namespace Options

/-- Keeps nothing. -/
def plain : Options := ⟨false, false⟩

/-- Keeps the white space around the text, as for the labels of links. -/
def spaced : Options := ⟨true, false⟩

/-- Keeps tags, as for the arguments of templates. -/
def tagged : Options := ⟨false, true⟩

end Options

end WikiText
