import WikiText.Proofs.Unicode.Blanks
import WikiText.Unicode.CaseFold

/-!
# Characters without case

A character that folds to itself, and to which no other one folds, is the same letter as itself only
(`Caseless.sameLetter_iff`). The marks of links and all white space are of this kind, so that a name
has them in capital or small letters where it has them as it is written.
-/

namespace WikiText.Unicode

/-- A code point is one that the characters of a run may fold to. -/
def FoldRun.Reaches (run : FoldRun) (n : Nat) : Prop :=
  run.target ≤ n ∧ n ≤ run.target + (run.last - run.first)

instance (run : FoldRun) (n : Nat) : Decidable (run.Reaches n) :=
  inferInstanceAs (Decidable (_ ∧ _))

/-- A code point folds to itself, or to one that a run reaches. -/
theorem eq_or_reaches_foldCodePoint (runs : List FoldRun) (n : Nat) :
    foldCodePoint runs n = n ∨ ∃ run ∈ runs, run.Reaches (foldCodePoint runs n) := by
  induction runs with
  | nil => exact .inl rfl
  | cons run runs ih =>
    rw [foldCodePoint.eq_def]
    dsimp only
    split
    · exact .inl rfl
    · split
      · next hfrom hto =>
        rw [Bool.and_eq_true, decide_eq_true_eq] at hto
        exact .inr ⟨run, List.mem_cons_self, Nat.le_add_right _ _, by omega⟩
      · exact ih.imp_right fun ⟨other, hother, hreaches⟩ =>
          ⟨other, List.mem_cons_of_mem run hother, hreaches⟩

/-- Every character folds to one. -/
theorem isValidChar_foldCodePoint (c : Char) : (foldCodePoint foldRuns c.toNat).isValidChar := by
  have htargets : ∀ run ∈ foldRuns, run.target + (run.last - run.first) < 0xD800 ∨
      0xDFFF < run.target ∧ run.target + (run.last - run.first) < 0x110000 := by decide +kernel
  rcases eq_or_reaches_foldCodePoint foldRuns c.toNat with heq | ⟨run, hrun, hfrom, hto⟩
  · rw [heq]
    exact c.valid
  · rcases htargets run hrun with hlow | hhigh
    · exact .inl (by omega)
    · exact .inr (by omega)

/-- A character folds as its code point does. -/
theorem toNat_foldCase (c : Char) : (foldCase c).toNat = foldCodePoint foldRuns c.toNat :=
  toNat_ofNat (isValidChar_foldCodePoint c)

/-- A character folds to itself, and no run reaches it. -/
def Caseless (c : Char) : Prop :=
  foldCase c = c ∧ ∀ run ∈ foldRuns, ¬ run.Reaches c.toNat

instance (c : Char) : Decidable (Caseless c) :=
  inferInstanceAs (Decidable (_ ∧ _))

/-- White space is like no other character, in any case. -/
theorem caseless_of_isWhiteSpace {c : Char} (h : isWhiteSpace c = true) : Caseless c :=
  forall_isWhiteSpace (p := Caseless) (by decide +kernel) h

namespace Caseless

variable {c d : Char}

/-- A caseless character is the same letter as itself only. -/
theorem sameLetter_iff (hc : Caseless c) : sameLetter d c = true ↔ d = c := by
  rw [sameLetter, beq_iff_eq, hc.1]
  refine ⟨fun hfold => ?_, fun heq => by rw [heq, hc.1]⟩
  rcases eq_or_reaches_foldCodePoint foldRuns d.toNat with hself | ⟨run, hrun, hreaches⟩
  · rw [← toNat_foldCase, hfold] at hself
    exact (Char.toNat_inj.mp hself).symm
  · rw [← toNat_foldCase, hfold] at hreaches
    exact absurd hreaches (hc.2 run hrun)

/-- Another character is not the same letter as a caseless one. -/
theorem sameLetter_eq_false (hc : Caseless c) (h : d ≠ c) : sameLetter d c = false := by
  rw [← Bool.not_eq_true, hc.sameLetter_iff]
  exact h

end Caseless

end WikiText.Unicode
