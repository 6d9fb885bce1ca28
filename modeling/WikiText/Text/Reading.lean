import WikiText.Scanner
import WikiText.Text.Basic
import WikiText.Unicode.CaseFold
import WikiText.Unicode.Word

/-!
# Reading texts

Scanners for characters: literal texts with and without regard to case, white space, and the ends
and beginnings of words.
-/

namespace WikiText.Scanner

open Unicode (isWhiteSpace isWordChar sameLetter)

variable {α : Type}

/-- Reads exactly the given text. -/
def exactly (literal : String) : Scanner Char Unit :=
  matching (· == ·) literal.toList

/-- Reads the given text in capital or small letters. -/
def caseless (literal : String) : Scanner Char Unit :=
  matching sameLetter literal.toList

/-- Skips white space, if there is any. -/
def blanks : Scanner Char Unit :=
  skipWhile isWhiteSpace

/-- Skips white space, of which there must be some. -/
def blanks1 : Scanner Char Unit :=
  skipWhile1 isWhiteSpace

/-- Reads nothing, and accepts only where no word goes on. -/
def wordEnd : Scanner Char Unit :=
  notBefore isWordChar

/-- Tries `target` at the beginning of each word, skipping only characters that satisfy `p`, and
stops at the first place that it accepts. `inWord` says whether a word reaches up to the text. -/
def seekRun (inWord : Bool) (p : Char → Bool) (target : Scanner Char α) :
    Text → Option (α × Text)
  | [] => if inWord then none else target.run []
  | c :: tail =>
    match if inWord then none else target.run (c :: tail) with
    | some found => some found
    | none => if p c then seekRun (isWordChar c) p target tail else none

theorem seekRun_suffix {inWord : Bool} {p : Char → Bool} {target : Scanner Char α}
    {text rest : Text} {a : α} (h : seekRun inWord p target text = some (a, rest)) :
    rest <:+ text := by
  induction text generalizing inWord with
  | nil =>
    unfold seekRun at h
    split at h
    · cases h
    · exact target.suffix h
  | cons c tail ih =>
    unfold seekRun at h
    split at h
    · next found =>
      cases h
      split at found
      · cases found
      · exact target.suffix found
    · split at h
      · exact (ih h).trans (List.suffix_cons _ _)
      · cases h

/-- Skips characters that satisfy `p` up to the first beginning of a word where `target` accepts,
and reads with it. `inWord` says whether a word reaches up to the text. -/
def seek (inWord : Bool) (p : Char → Bool) (target : Scanner Char α) : Scanner Char α where
  run := seekRun inWord p target
  suffix := seekRun_suffix

end WikiText.Scanner
