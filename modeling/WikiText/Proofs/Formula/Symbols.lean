import WikiText.Clean
import WikiText.Proofs.Unicode.Tables

/-!
# Openers among symbols and shapes of letters

What a command stands for, how a letter looks in an alphabet and how a character is raised or lowered
is looked up in tables. A symbol has at most one opener, for a command may stand for a bracket or a
backslash; other shapes have none.
-/

namespace WikiText

open Unicode (mem_of_lookup)

namespace Formula

/-- A symbol has at most one opener. -/
theorem openers_symbol_le {name symbol : Text} (h : symbol? name = some symbol) :
    openers symbol ≤ 1 := by
  have hall : (symbols.all fun entry => openers entry.2.toList ≤ 1) = true := by decide +kernel
  obtain ⟨text, hlookup, rfl⟩ := Option.map_eq_some_iff.mp h
  exact of_decide_eq_true (List.all_eq_true.mp hall _ (mem_of_lookup hlookup))

/-- No letter of an alphabet is an opener. -/
theorem isOpener_letter {alphabet : Alphabet} {c letter : Char}
    (h : alphabet.letters.lookup c = some letter) : isOpener letter = false := by
  have hall : ([.calligraphic, .fraktur, .doubleStruck].all fun alphabet : Alphabet =>
      alphabet.letters.all fun entry => !isOpener entry.2) = true := by decide +kernel
  have hletters : (alphabet.letters.all fun entry => !isOpener entry.2) = true :=
    List.all_eq_true.mp hall alphabet (by cases alphabet <;> simp)
  simpa using List.all_eq_true.mp hletters _ (mem_of_lookup h)

end Formula

/-- Neither table of scripts has an opener. -/
theorem Script.openers_form {table : List (Char × String)}
    (htable : table = superscripts ∨ table = subscripts) {c : Char} {form : Text}
    (h : form? table c = some form) : openers form = 0 := by
  have hall : ((superscripts ++ subscripts).all fun entry => openers entry.2.toList == 0) = true := by
    decide +kernel
  obtain ⟨shape, hlookup, rfl⟩ := Option.map_eq_some_iff.mp h
  have hentry := mem_of_lookup hlookup
  refine eq_of_beq (List.all_eq_true.mp hall (c, shape) (List.mem_append.mpr ?_))
  rcases htable with rfl | rfl
  · exact .inl hentry
  · exact .inr hentry

end WikiText
