import WikiText.Proofs.Unicode.Tables
import WikiText.Unicode.Word

/-!
# White space and other characters

No character of white space is a word character, a letter or a numeral. The property `White_Space` has
few members, so that each of these is a check over all of them (`forall_isWhiteSpace`).
-/

namespace WikiText.Unicode

/-- A property that is checked for the code points of white space holds for white space. -/
theorem forall_isWhiteSpace {p : Char → Prop} (h : ∀ n ∈ blanks, p (Char.ofNat n)) {c : Char}
    (hc : isWhiteSpace c = true) : p c := by
  rw [← Char.ofNat_toNat c]
  exact h c.toNat (mem_blanks hc)

/-- White space is no character of words. -/
theorem isWordChar_of_isWhiteSpace {c : Char} (h : isWhiteSpace c = true) :
    isWordChar c = false :=
  forall_isWhiteSpace (p := fun c => isWordChar c = false) (by decide +kernel) h

/-- White space is neither letter nor numeral. -/
theorem isAlphanumeric_of_isWhiteSpace {c : Char} (h : isWhiteSpace c = true) :
    isAlphanumeric c = false :=
  forall_isWhiteSpace (p := fun c => isAlphanumeric c = false) (by decide +kernel) h

/-- White space is no ASCII letter. -/
theorem isAlpha_of_isWhiteSpace {c : Char} (h : isWhiteSpace c = true) : c.isAlpha = false :=
  forall_isWhiteSpace (p := fun c => c.isAlpha = false) (by decide +kernel) h

/-- A character of words is no white space. -/
theorem isWhiteSpace_of_isWordChar {c : Char} (h : isWordChar c = true) :
    isWhiteSpace c = false := by
  by_contra hblank
  rw [isWordChar_of_isWhiteSpace (eq_true_of_ne_false hblank)] at h
  cases h

end WikiText.Unicode
