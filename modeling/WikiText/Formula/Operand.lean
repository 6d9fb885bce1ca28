import WikiText.Formula.Atom
import WikiText.Formula.Symbol
import WikiText.Scanner

/-!
# Operands

An operand is the smallest part of a formula that a command or a script applies to: a command, an
escaped character, a word, a single character or a group. Several commands in a row that mean one
symbol are an idiom, which counts as one operand too.
-/

namespace WikiText.Formula

open Scanner

/-- The spellings in which several commands in a row mean one symbol, the longest first. The symbol
is that of the spelling without its first backslash. -/
def idioms : List String := [
  "\\overset\x7b\\operatorname\x7bdef\x7d\x7d\x7b=\x7d", "\\not\\vartriangleright",
  "\\not\\trianglerighteq", "\\not\\vartriangleleft", "\\not\\trianglelefteq",
  "\\overset\x7b?\x7d\x7b=\x7d", "\\not\\subseteq", "\\not\\supseteq", "\\dot\\bigvee",
  "\\not\\preceq", "\\not\\subset", "\\not\\succeq", "\\not\\supset", "\\widehat\x7b=\x7d",
  "\\overset?=", "\\widehat=", "\\dot\\cap", "\\dot\\cup", "\\dot\\lor", "\\dot\\vee",
  "\\not\\in", "\\not\\ni"]

/-- What follows the atoms at the front of a sequence that spell a text out, if they do. A group
spells its source in braces. -/
def spellRun : Text → List Atom → Option (Unit × List Atom)
  | [], atoms => some ((), atoms)
  | _ :: _, [] => none
  | c :: text, .char d :: atoms => if c = d then spellRun text atoms else none
  | c :: text, .group source _ :: atoms =>
    -- a group is spelled out as a whole or not at all
    let spelled := Atom.source (.group source [])
    if spelled.isPrefixOf (c :: text) then spellRun ((c :: text).drop spelled.length) atoms
    else none

theorem spellRun_suffix {text : Text} {atoms rest : List Atom} {u : Unit}
    (h : spellRun text atoms = some (u, rest)) : rest <:+ atoms := by
  fun_induction spellRun text atoms with
  | case1 =>
    cases h
    exact List.suffix_refl _
  | case2 => cases h
  | case3 _ _ _ ih => exact (ih h).trans (List.suffix_cons _ _)
  | case4 => cases h
  | case5 _ _ _ _ _ _ _ ih => exact (ih h).trans (List.suffix_cons _ _)
  | case6 => cases h

/-- Reads atoms that spell a text out. -/
def spell (text : Text) : Scanner Atom Unit where
  run := spellRun text
  suffix := spellRun_suffix

/-- Reads one idiom as its symbol. A spelling that ends in a command name ends where the name does. -/
def idiomOf (spelling : String) : Scanner Atom Text := do
  spell spelling.toList
  if spelling.toList.getLast?.any Char.isAlpha then notBefore Atom.isLetter
  ofOption (symbol? (spelling.toList.drop 1))

/-- Reads the longest idiom, as its symbol. -/
def idiom : Scanner Atom Text :=
  firstOf (idioms.map idiomOf)

/-- Reads a backslash and the letters of a command name, as the name. -/
def command : Scanner Atom Text := do
  one (.char '\\')
  let name ← takeWhile1 Atom.isLetter
  return Atom.sourceOf name

/-- Skips white space, if there is any. -/
def space : Scanner Atom Unit :=
  skipWhile Atom.isBlank

theorem consumes_command : command.Consumes :=
  (consumes_one _).bind _

theorem consumes_spell {c : Char} {text : Text} : (spell (c :: text)).Consumes := by
  intro atoms _ rest h
  cases atoms with
  | nil => cases h
  | cons atom tail =>
    refine Nat.lt_succ_of_le (List.IsSuffix.length_le ?_)
    cases atom with
    | char d =>
      simp only [spell, spellRun] at h
      split at h
      · exact spellRun_suffix h
      · cases h
    | group source rendered =>
      simp only [spell, spellRun] at h
      split at h
      · exact spellRun_suffix h
      · cases h

theorem consumes_idiom : idiom.Consumes := by
  refine consumes_firstOf fun scanner member => ?_
  obtain ⟨spelling, listed, rfl⟩ := List.mem_map.mp member
  have nonempty : ∀ spelling ∈ idioms, spelling.toList ≠ [] := by decide
  obtain ⟨c, text, same⟩ := List.exists_cons_of_ne_nil (nonempty spelling listed)
  unfold idiomOf
  rw [same]
  exact consumes_spell.bind _

/-- What a command or a script applies to. -/
inductive Operand where
  /-- A command, by its name. -/
  | command (name : Text)
  /-- A character behind a backslash that names no command. -/
  | escaped (c : Char)
  /-- A run of letters and numerals. -/
  | word (text : Text)
  /-- Any other character. -/
  | char (c : Char)
  /-- A group, by its rendering. -/
  | group (rendered : Text)
  /-- An idiom, by its symbol. -/
  | idiom (symbol : Text)
  deriving DecidableEq, Repr

namespace Operand

/-- Reads any atom by itself. -/
def single : Scanner Atom Operand := do
  match ← any with
  | .char c => return char c
  | .group _ rendered => return group rendered

/-- Reads an atom behind a backslash. A group is the same with and without one. -/
def afterBackslash : Scanner Atom Operand := do
  one (.char '\\')
  match ← any with
  | .char c => return escaped c
  | .group _ rendered => return group rendered

/-- Reads a run of letters and numerals. -/
def wordRun : Scanner Atom Operand := do
  let run ← takeWhile1 Atom.isWordChar
  return word (Atom.sourceOf run)

/-- Reads the operand of a script or of a command that changes the type. A command takes the white
space after it along. -/
def scanner : Scanner Atom Operand :=
  (do let name ← Formula.command; space; return command name)
    <|> afterBackslash <|> wordRun <|> single

/-- Reads the operand of a fraction: an idiom, a command, or one character or group. -/
def narrowScanner : Scanner Atom Operand :=
  (do let symbol ← Formula.idiom; return idiom symbol)
    <|> (do let name ← Formula.command; return command name)
    <|> afterBackslash <|> single

/-- The text of an operand. A command without a symbol is shown by its name between spaces, and so
is an escaped letter or numeral; alignment marks, lone backslashes and white space vanish. -/
def render : Operand → Text
  | command name => (symbol? name).getD (' ' :: name ++ [' '])
  | escaped c =>
    (symbol? [c]).getD (if Unicode.isAlphanumeric c then [' ', c, ' '] else [c])
  | word text => text
  | char c => if c = '&' || c = '\\' || Unicode.isWhiteSpace c then [] else [c]
  | group rendered => rendered
  | idiom symbol => symbol

theorem consumes_scanner : scanner.Consumes := by
  refine .orElse ?_ (.orElse ?_ (.orElse ?_ ?_))
  · exact consumes_command.bind _
  · exact (consumes_one _).bind _
  · exact (consumes_takeWhile1 _).bind _
  · exact (consumes_satisfy _).bind _

end Operand

end WikiText.Formula
