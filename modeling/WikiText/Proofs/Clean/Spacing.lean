import WikiText.Proofs.Tidy
import WikiText.Clean

/-!
# White space of a cleaned text

A call of the cleaner looks at the white space that it is to keep in its last pass only: contents of
scripts are cleaned without it and labels of links with it, whatever the call itself was asked for.
So keeping it or not is a matter of trimming the result (`clean_trim`), and of nothing that is noted
on the way.

That last pass leaves the text reduced, and normalization keeps it so (`reduced_clean`).
-/

namespace WikiText

open Text (Trimmed trim)

/-! ## Keeping the white space around a text -/

/-- A text that is tidied without the white space around it is the trimmed text that keeps it:
normalization trims before as well as after. -/
theorem Tidy.tidy_trim (keepTags : Bool) (text : Text) :
    Tidy.tidy ⟨false, keepTags⟩ text = trim (Tidy.tidy ⟨true, keepTags⟩ text) := by
  show Unicode.nfc (trim _) = trim (Unicode.nfc _)
  exact (Unicode.trim_nfc _).symm

variable {ε : Type} (note : Event → ε) (namespaces : Namespaces)
  (nested : Options → Text → Traced ε Text)

/-- Labels keep the white space around them in every call. -/
theorem resolveLinks_keepSpace (keepSpace keepSpace' keepTags : Bool) (text : Text) :
    resolveLinks note namespaces nested ⟨keepSpace, keepTags⟩ text
      = resolveLinks note namespaces nested ⟨keepSpace', keepTags⟩ text :=
  rfl

/-- One call trims its value at the end, and notes the same. -/
theorem cleanWith_trim (keepTags : Bool) (text : Text) :
    (cleanWith note namespaces nested ⟨false, keepTags⟩ text).value
        = trim (cleanWith note namespaces nested ⟨true, keepTags⟩ text).value ∧
      (cleanWith note namespaces nested ⟨false, keepTags⟩ text).trace
        = (cleanWith note namespaces nested ⟨true, keepTags⟩ text).trace := by
  unfold cleanWith
  simp only [Traced.value_bind, Traced.trace_bind, Traced.value_pure, Traced.trace_pure]
  constructor
  · rw [resolveLinks_keepSpace note namespaces nested false true, Tidy.tidy_trim]
  · rw [resolveLinks_keepSpace note namespaces nested false true]

/-- **A text is cleaned without the white space around it to what it is cleaned to with it, trimmed,**
and the same diagnostics and other events are noted, in the same order. -/
theorem clean_trim (keepTags : Bool) (text : Text) :
    (clean namespaces ⟨false, keepTags⟩ text).value
        = trim (clean namespaces ⟨true, keepTags⟩ text).value ∧
      (clean namespaces ⟨false, keepTags⟩ text).trace
        = (clean namespaces ⟨true, keepTags⟩ text).trace :=
  cleanWith_trim id namespaces _ keepTags text

/-! ## The form of a cleaned text -/

/-- The last thing that a call does is to tidy a text. -/
theorem exists_value_cleanWith_eq_tidy (options : Options) (text : Text) :
    ∃ bare, (cleanWith note namespaces nested options text).value = Tidy.tidy options bare :=
  ⟨_, rfl⟩

/-- A tidied text is trimmed, unless space is kept. -/
theorem Tidy.trimmed_tidy (keepTags : Bool) (text : Text) :
    Trimmed (Tidy.tidy ⟨false, keepTags⟩ text) := by
  rw [Tidy.tidy_trim]
  exact Text.trimmed_trim _

/-- A cleaned text is trimmed, unless space is kept. -/
theorem trimmed_clean (keepTags : Bool) (text : Text) :
    Trimmed (clean namespaces ⟨false, keepTags⟩ text).value := by
  obtain ⟨bare, htidy⟩ := exists_value_cleanWith_eq_tidy id namespaces
    (cleanUpTo namespaces (openers text)) ⟨false, keepTags⟩ text
  rw [clean, cleanUpTo, htidy]
  exact Tidy.trimmed_tidy keepTags bare

/-- **A cleaned text is reduced**: it holds no tab, carriage return, no-break space or invisible
character, no two spaces side by side and no space before a newline. Unless the white space around it
was to be kept, it neither begins nor ends with any. -/
theorem reduced_clean (options : Options) (text : Text) :
    Tidy.Reduced (clean namespaces options text).value ∧
      Trimmed (clean namespaces { options with keepSpace := false } text).value := by
  constructor
  · obtain ⟨bare, htidy⟩ := exists_value_cleanWith_eq_tidy id namespaces
      (cleanUpTo namespaces (openers text)) options text
    rw [clean, cleanUpTo, htidy]
    exact Tidy.reduced_tidy options bare
  · obtain ⟨bare, htidy⟩ := exists_value_cleanWith_eq_tidy id namespaces
      (cleanUpTo namespaces (openers text)) { options with keepSpace := false } text
    rw [clean, cleanUpTo, htidy]
    exact Tidy.trimmed_tidy options.keepTags bare

end WikiText
