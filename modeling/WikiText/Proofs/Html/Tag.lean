import WikiText.Html.Tag
import WikiText.Proofs.Scanner
import WikiText.Proofs.Text.Trim

/-!
# Tags as they are written

The tags of an element are read where they stand, with their name in capital or small letters, and nothing else is
read as one.
-/

namespace WikiText.Html

open Scanner
open Unicode (isWordChar sameLetter)

/-- An opening tag ends at the first closing bracket, and no word goes on behind its name. -/
theorem run_openTag_eq_some {name : String} {tail rest : Text} {u : Unit} :
    (openTag name).run tail = some (u, rest) ↔
      ∃ written attributes, List.Forall₂ (sameLetter · · = true) name.toList written ∧
        attributes.head?.any isWordChar = false ∧ '>' ∉ attributes ∧
        tail = written ++ (attributes ++ '>' :: rest) := by
  constructor
  · intro h
    obtain ⟨_, behind, hname, h⟩ := exists_of_bind h
    obtain ⟨_, _, hend, h⟩ := exists_of_bind h
    obtain ⟨_, _, hattributes, hclose⟩ := exists_of_bind h
    obtain ⟨written, hwritten, rfl⟩ := run_matching_eq_some.mp hname
    obtain ⟨hword, rfl⟩ := run_notBefore_eq_some.mp hend
    obtain ⟨attributes, hunended, rfl⟩ := exists_of_skipWhile hattributes
    obtain rfl := run_one_eq_some.mp hclose
    -- the name ends at the tag or before a character that goes on with no word
    refine ⟨written, attributes, hwritten, ?_, fun hmem => absurd (hunended _ hmem) (by simp), rfl⟩
    cases attributes with
    | nil => rfl
    | cons c attributes => exact hword
  · rintro ⟨written, attributes, hwritten, hword, hunended, rfl⟩
    have hname : (caseless name).run (written ++ (attributes ++ '>' :: rest))
        = some ((), attributes ++ '>' :: rest) := run_matching_eq_some.mpr ⟨written, hwritten, rfl⟩
    have hend : wordEnd.run (attributes ++ '>' :: rest) = some ((), attributes ++ '>' :: rest) := by
      refine run_notBefore_eq_some.mpr ⟨?_, rfl⟩
      cases attributes with
      | nil => rfl
      | cons c attributes => exact hword
    have hskip : (skipWhile (· ≠ '>')).run (attributes ++ '>' :: rest) = some ((), '>' :: rest) :=
      run_skipWhile_append (fun c hc => decide_eq_true fun heq => hunended (heq ▸ hc)) (by simp)
    exact (run_bind_of_eq_some hname).trans <| (run_bind_of_eq_some hend).trans <|
      (run_bind_of_eq_some hskip).trans (run_one_self '>' rest)

/-- A closing tag has nothing but white space behind its name. -/
theorem run_closeTag_eq_some {name : String} {text rest : Text} {u : Unit} :
    (closeTag name).run text = some (u, rest) ↔
      ∃ written blank, List.Forall₂ (sameLetter · · = true) name.toList written ∧ Text.Blank blank ∧
        text = '<' :: '/' :: (written ++ (blank ++ '>' :: rest)) := by
  constructor
  · intro h
    obtain ⟨_, _, hopen, h⟩ := exists_of_bind h
    obtain ⟨_, _, hname, h⟩ := exists_of_bind h
    obtain ⟨_, _, hblanks, hclose⟩ := exists_of_bind h
    obtain rfl := run_matching_beq.mp hopen
    obtain ⟨written, hwritten, rfl⟩ := run_matching_eq_some.mp hname
    obtain ⟨blank, hblank, rfl⟩ := exists_of_skipWhile hblanks
    obtain rfl := run_one_eq_some.mp hclose
    exact ⟨written, blank, hwritten, hblank, rfl⟩
  · rintro ⟨written, blank, hwritten, hblank, rfl⟩
    have hname : (caseless name).run (written ++ (blank ++ '>' :: rest)) = some ((), blank ++ '>' :: rest) :=
      run_matching_eq_some.mpr ⟨written, hwritten, rfl⟩
    have hskip : blanks.run (blank ++ '>' :: rest) = some ((), '>' :: rest) :=
      run_skipWhile_append hblank (by rintro c ⟨⟩; rfl)
    exact (run_bind_of_eq_some (run_matching_self "</".toList _)).trans <|
      (run_bind_of_eq_some hname).trans <| (run_bind_of_eq_some hskip).trans (run_one_self '>' rest)

end WikiText.Html
