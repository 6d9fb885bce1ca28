import WikiText.Proofs.Formula.Respaced
import WikiText.Proofs.Unicode.Blanks

/-!
# Formulas without control characters

A formula without backslashes, braces and marks of scripts is shown as it is written, but for white space
and alignment marks, which vanish (`render_plain`). Where characters vanish between a letter or ASCII
digit and an ASCII digit, one space is shown instead.

The tokens of such a formula are words and single characters. A word is a longest run of alphanumeric
characters, and every character that a space could separate from a digit is one of those. So a space
never stands between two tokens that are next to each other, and the digits within a word are not
touched: what the joined text needs to know of the formula is whether something vanished before the next
token (`shownFrom_plain`).

Braces around such a formula that are both escaped are still a pair, and not shown; an escaped brace
alone is (`render_escaped`).
-/

namespace WikiText.Formula

open Scanner
open Unicode (Intervals decimalDigit isAlphabetic isAlphanumeric isDecimalDigit isWhiteSpace)

variable {rest behind tail : List Atom} {token : Token} {operand : Operand} {c : Char}
  {text word : Text}

/-! ## Characters -/

/-- Whether a character has a meaning of its own in formulas. -/
def isControl (c : Char) : Bool :=
  ['\\', '{', '}', '_', '^'].contains c

/-- A text without characters that have a meaning of their own in formulas. -/
def Plain (text : Text) : Prop :=
  ∀ c ∈ text, isControl c = false

instance : DecidablePred Plain := fun text =>
  List.decidableBAll (fun c => isControl c = false) text

/-- Whether nothing is shown of a character: white space and alignment marks. -/
def vanishes (c : Char) : Bool :=
  c = '&' || isWhiteSpace c

/-- A character that is neither letter nor numeral is no ASCII digit. -/
theorem isDigit_eq_false (h : isAlphanumeric c = false) : c.isDigit = false := by
  have hother : isDecimalDigit c = false := (Bool.or_eq_false_iff.mp (Bool.or_eq_false_iff.mp h).1).2
  rw [← Bool.not_eq_true, Char.isDigit, Bool.and_eq_true, decide_eq_true_eq, decide_eq_true_eq]
  rintro ⟨hlow, hhigh⟩
  have hleast : ¬ c.toNat < 0x30 := Nat.not_lt_of_le hlow
  have hmost : c.toNat ≤ 0x39 := hhigh
  rw [isDecimalDigit, decimalDigit, Intervals.contains, if_neg hleast, decide_eq_true hmost,
    Bool.true_or] at hother
  cases hother

/-- Only a letter or numeral is set apart from what is before it. -/
theorem runsTogether_eq_false (last : Option Char) (h : isAlphanumeric c = false) :
    runsTogether last c = false := by
  rw [runsTogether, isDigit_eq_false h, Bool.false_and]

/-- Only a letter or numeral has something set apart from it. -/
theorem runsTogether_behind (h : isAlphanumeric c = false) (next : Char) :
    runsTogether (some c) next = false := by
  have hletter : isAlphabetic c = false := (Bool.or_eq_false_iff.mp (Bool.or_eq_false_iff.mp h).1).1
  rw [runsTogether, Option.any_some, hletter, isDigit_eq_false h, Bool.or_false,
    Bool.and_false]

/-- Letters and numerals have no meaning of their own in formulas. -/
theorem isControl_of_isAlphanumeric (h : isAlphanumeric c = true) : isControl c = false := by
  have hcontrols : (['\\', '{', '}', '_', '^'].all fun d => !isAlphanumeric d) = true := by
    decide
  rw [isControl, ← Bool.not_eq_true, List.contains_iff_mem]
  intro hmem
  have hother := List.all_eq_true.mp hcontrols c hmem
  rw [h] at hother
  cases hother

/-- Letters and numerals are shown. -/
theorem vanishes_of_isAlphanumeric (h : isAlphanumeric c = true) : vanishes c = false := by
  have hmark : isAlphanumeric '&' = false := by decide
  rw [vanishes, Bool.or_eq_false_iff, decide_eq_false_iff_not]
  constructor
  · rintro rfl
    rw [hmark] at h
    cases h
  · rw [← Bool.not_eq_true]
    intro hblank
    rw [Unicode.isAlphanumeric_of_isWhiteSpace hblank] at h
    cases h

/-! ## Texts that are closed up -/

/-- A text without the characters that vanish. One space stands between two kept characters that were
`apart`, if the `last` one is a letter or an ASCII digit and the next one an ASCII digit. -/
def closeUpFrom (last : Option Char) (apart : Bool) : Text → Text
  | [] => []
  | c :: text =>
    if vanishes c then closeUpFrom last true text
    else if apart && c.isDigit && last.any (fun d => isAlphabetic d || d.isDigit) then
      ' ' :: c :: closeUpFrom (some c) false text
    else c :: closeUpFrom (some c) false text

/-- A text without the characters that vanish, in which numbers stay apart from what was before them. -/
def closeUp (text : Text) : Text :=
  closeUpFrom none false text

/-- A character that is shown may have a space before it, if something vanished there. -/
theorem closeUpFrom_cons (hc : vanishes c = false) (last : Option Char) (apart : Bool) (text : Text) :
    closeUpFrom last apart (c :: text)
      = (if apart && runsTogether last c then [' '] else []) ++ c :: closeUpFrom (some c) false text := by
  rw [closeUpFrom, hc, if_neg Bool.false_ne_true, runsTogether, Bool.and_assoc]
  split <;> rfl

/-- Characters that are next to each other are kept as they are. -/
theorem closeUpFrom_append (h : ∀ c ∈ word, vanishes c = false) (last : Option Char) (text : Text) :
    closeUpFrom last false (word ++ text)
      = word ++ closeUpFrom (word.getLast?.or last) false text := by
  induction word generalizing last with
  | nil => rfl
  | cons c word ih =>
    obtain ⟨hc, hword⟩ := List.forall_mem_cons.mp h
    rw [List.cons_append, closeUpFrom_cons hc, ih hword, List.getLast?_cons]
    cases word.getLast? <;> rfl

/-- A text of which every character is shown stays as it is. -/
theorem closeUp_of_kept (h : ∀ c ∈ text, vanishes c = false) : closeUp text = text := by
  have hkept := closeUpFrom_append h none []
  rw [List.append_nil] at hkept
  rw [closeUp, hkept, closeUpFrom, List.append_nil]

/-- A kept word in a text that is closed up. -/
theorem closeUpFrom_word (hword : ∀ c ∈ word, vanishes c = false) (hne : word ≠ [])
    (last : Option Char) (apart : Bool) (text : Text) :
    closeUpFrom last apart (word ++ text)
      = (if apart && word.head?.any (runsTogether last) then [' '] else []) ++ word
        ++ closeUpFrom word.getLast? false text := by
  obtain ⟨c, word, rfl⟩ := List.exists_cons_of_ne_nil hne
  obtain ⟨hc, hrest⟩ := List.forall_mem_cons.mp hword
  rw [List.cons_append, closeUpFrom_cons hc, closeUpFrom_append hrest, List.head?_cons,
    Option.any_some, List.getLast?_cons, List.append_assoc]
  cases word.getLast? <;> rfl

/-- What is behind a character that is no letter and no numeral is closed up as if it stood alone. -/
theorem closeUpFrom_behind (hc : isAlphanumeric c = false) (apart : Bool) (text : Text) :
    closeUpFrom (some c) apart text = closeUpFrom none apart text := by
  induction text generalizing apart with
  | nil => rfl
  | cons d text ih =>
    by_cases hd : vanishes d = true
    · rw [closeUpFrom, if_pos hd, ih, closeUpFrom, if_pos hd]
    · have hnone : runsTogether none d = false := by rw [runsTogether, Option.any_none, Bool.and_false]
      rw [closeUpFrom_cons (Bool.eq_false_iff.mpr hd), closeUpFrom_cons (Bool.eq_false_iff.mpr hd),
        runsTogether_behind hc, hnone]

/-- Nothing that is closed up begins with white space. -/
theorem head?_closeUpFrom (apart : Bool) (text : Text) :
    ∀ c ∈ (closeUpFrom none apart text).head?, isWhiteSpace c = false := by
  induction text generalizing apart with
  | nil => simp [closeUpFrom]
  | cons c text ih =>
    by_cases hc : vanishes c = true
    · rw [closeUpFrom, if_pos hc]
      exact ih true
    · rw [Bool.not_eq_true] at hc
      have hfirst : runsTogether none c = false := Bool.and_false _
      rw [closeUpFrom_cons hc, hfirst, Bool.and_false, if_neg Bool.false_ne_true]
      rintro d ⟨⟩
      exact (Bool.or_eq_false_iff.mp hc).2

/-- Nothing that is closed up ends in white space. -/
theorem getLast?_closeUpFrom (last : Option Char) (apart : Bool) (text : Text) :
    ∀ c ∈ (closeUpFrom last apart text).getLast?, isWhiteSpace c = false := by
  induction text generalizing last apart with
  | nil => simp [closeUpFrom]
  | cons c text ih =>
    by_cases hc : vanishes c = true
    · rw [closeUpFrom, if_pos hc]
      exact ih last true
    · rw [Bool.not_eq_true] at hc
      have hlater := ih (some c) false
      rw [closeUpFrom_cons hc, List.getLast?_append_cons, List.getLast?_cons]
      -- the last character that is shown is this one, if nothing is shown behind it
      cases hlast : (closeUpFrom (some c) false text).getLast? with
      | none =>
        rintro d ⟨⟩
        exact (Bool.or_eq_false_iff.mp hc).2
      | some e =>
        rw [hlast] at hlater
        exact hlater

/-- White space is put between kept characters only. -/
theorem trimmed_closeUp (text : Text) : (closeUp text).Trimmed where
  head := head?_closeUpFrom false text
  last := getLast?_closeUpFrom none false text

/-! ## Tokens -/

/-- What begins with no control character is white space, a word or a single character. -/
theorem run_token_char (hc : isControl c = false) (hblank : isWhiteSpace c = false)
    (rest : List Atom) :
    Token.scanner.run (.char c :: rest)
      = ((Operand.wordRun <|> Operand.single).run (.char c :: rest)).map
        fun (operand, behind) => (.item none none operand, behind) := by
  have hne : ∀ d, isControl d = true → Atom.char c ≠ .char d := by
    rintro d hd ⟨⟩
    rw [hc] at hd
    cases hd
  have hcommand := run_command_of_ne (hne '\\' rfl) rest
  have hspace : (skipWhile1 Atom.isBlank).run (.char c :: rest) = none := by
    have hatom : ¬ (Atom.char c).isBlank = true := Bool.eq_false_iff.mp hblank
    rw [skipWhile1, run_bind, run_takeWhile1, List.takeWhile_cons_of_neg hatom]
    rfl
  have hshift : Shift.scanner.run (.char c :: rest) = none := by
    rw [Shift.scanner, run_orElse, run_bind, run_bind, run_one_of_ne (hne '_' rfl),
      run_one_of_ne (hne '^' rfl)]
    rfl
  have hoperand : Operand.scanner.run (.char c :: rest)
      = (Operand.wordRun <|> Operand.single).run (.char c :: rest) := by
    rw [Operand.scanner, run_orElse, run_bind, hcommand, run_orElse, Operand.afterBackslash, run_bind,
      run_one_of_ne (hne '\\' rfl)]
    rfl
  -- all scanners before the one of words and single atoms refuse
  rw [Token.scanner, run_orElse, run_orElse, run_orElse, run_bind, hspace, Token.ratioScanner,
    run_bind, hcommand, run_bind, run_idiom_of_ne (hne '\\' rfl), Token.itemScanner, run_orElse,
    run_bind, Modifier.scanner, run_bind, hcommand, run_bind, Token.scripted, run_orElse, run_bind,
    hshift, run_bind, hoperand]
  cases (Operand.wordRun <|> Operand.single).run (.char c :: rest) <;> rfl

/-- A longest run of letters and numerals is a token. -/
theorem run_token_word (hword : ∀ c ∈ word, isAlphanumeric c = true) (hne : word ≠ [])
    (hrest : ∀ atom ∈ rest.head?, atom.isWordChar = false) :
    Token.scanner.run (Atom.ofText word ++ rest) = some (.item none none (.word word), rest) := by
  have hrun : (takeWhile1 Atom.isWordChar).run (Atom.ofText word ++ rest)
      = some (Atom.ofText word, rest) := by
    apply run_takeWhile1_append _ (mt List.map_eq_nil_iff.mp hne) hrest
    intro atom hatom
    obtain ⟨c, hc, rfl⟩ := List.mem_map.mp hatom
    exact hword c hc
  have hread : Operand.wordRun.run (Atom.ofText word ++ rest) = some (.word word, rest) := by
    rw [Operand.wordRun, run_bind_of_eq_some hrun, Atom.sourceOf_ofText]
    rfl
  obtain ⟨c, word, rfl⟩ := List.exists_cons_of_ne_nil hne
  have hc := hword c List.mem_cons_self
  have hblank := (Bool.or_eq_false_iff.mp (vanishes_of_isAlphanumeric hc)).2
  rw [Atom.ofText_cons, List.cons_append] at hread ⊢
  rw [run_token_char (isControl_of_isAlphanumeric hc) hblank, run_orElse, hread]
  rfl

/-- Any other character is a token by itself. -/
theorem run_token_single (hc : isControl c = false) (hblank : isWhiteSpace c = false)
    (hword : isAlphanumeric c = false) (rest : List Atom) :
    Token.scanner.run (.char c :: rest) = some (.item none none (.char c), rest) := by
  have hatom : ¬ (Atom.char c).isWordChar = true := Bool.eq_false_iff.mp hword
  rw [run_token_char hc hblank, run_orElse, Operand.wordRun, run_bind, run_takeWhile1,
    List.takeWhile_cons_of_neg hatom]
  rfl

/-- Without control characters, a token is white space or an operand by itself. -/
theorem token_plain (htext : Plain text) (h : token ∈ Token.all (Atom.ofText text)) :
    token = .blank ∨ ∃ operand, token = .item none none operand := by
  obtain ⟨place, behind, hplace, hrun⟩ := exists_suffix_of_mem_all h
  obtain ⟨front, hfront⟩ := hplace
  obtain ⟨before, after, rfl, -, rfl⟩ := List.map_eq_append_iff.mp hfront.symm
  cases after with
  | nil => cases hrun
  | cons c after =>
    have hc := htext c (by simp)
    by_cases hblank : isWhiteSpace c = true
    · rw [List.map_cons, run_token_blank (show (Atom.char c).isBlank = true from hblank)] at hrun
      cases hrun
      exact .inl rfl
    · rw [List.map_cons, run_token_char hc (Bool.eq_false_iff.mpr hblank)] at hrun
      obtain ⟨⟨operand, _⟩, -, heq⟩ := Option.map_eq_some_iff.mp hrun
      cases heq
      exact .inr ⟨operand, rfl⟩

/-! ## Joined text -/

/-- What is shown of a sequence without pairs of braces behind a character. -/
def shownFrom (last : Option Char) (atoms : List Atom) : Text :=
  joinParts last ((inkTokens atoms).map fun token => (token.render renderFlat).value)

theorem shownFrom_nil (last : Option Char) : shownFrom last [] = [] := by
  rw [shownFrom, inkTokens, Token.all_nil]
  rfl

/-- An operand without shift and modifier is joined to the tokens behind it. -/
theorem shownFrom_item (h : Token.scanner.run rest = some (.item none none operand, behind))
    (last : Option Char) :
    shownFrom last rest
      = joinParts last (operand.render :: (inkTokens behind).map fun token =>
          (token.render renderFlat).value) := by
  rw [shownFrom, inkTokens_of_some h]
  rfl

/-- White space and alignment marks are passed over. -/
theorem shownFrom_vanishing (hc : vanishes c = true) (last : Option Char) (rest : List Atom) :
    shownFrom last (.char c :: rest) = shownFrom last rest := by
  by_cases hblank : isWhiteSpace c = true
  · have hatom : (Atom.char c).isBlank = true := hblank
    rw [shownFrom, ← inkTokens_inked, inked, List.dropWhile_cons_of_pos hatom, ← inked,
      inkTokens_inked]
    rfl
  · obtain rfl : c = '&' := by simpa [vanishes, hblank] using hc
    rw [shownFrom_item (run_token_single rfl rfl (by decide) rest)]
    rfl

/-- A character that is no letter, no numeral and no control character is shown as it is. -/
theorem shownFrom_single (hc : isControl c = false) (hkept : vanishes c = false)
    (hword : isAlphanumeric c = false) (last : Option Char) (rest : List Atom) :
    shownFrom last (.char c :: rest) = c :: shownFrom (some c) rest := by
  obtain ⟨hmark, hblank⟩ := Bool.or_eq_false_iff.mp hkept
  have hbackslash : c ≠ '\\' := by
    rintro rfl
    cases hc
  have hshown : (Operand.char c).render = [c] := by
    simp [Operand.render, hmark, hbackslash, hblank]
  rw [shownFrom_item (run_token_single hc hblank hword rest), hshown, joinParts,
    runsTogether_eq_false last hword, if_neg Bool.false_ne_true]
  rfl

/-- A word is shown as it is, behind a space if its first digit would run together with what is before
it. -/
theorem shownFrom_word {after : Text} (hword : ∀ c ∈ word, isAlphanumeric c = true) (hne : word ≠ [])
    (hafter : ∀ c ∈ after.head?, isAlphanumeric c = false)
    (htail : ∀ atom ∈ tail.head?, atom.isWordChar = false) (last : Option Char) :
    shownFrom last (Atom.ofText (word ++ after) ++ tail)
      = (if word.head?.any (runsTogether last) then [' '] else []) ++ word
        ++ shownFrom word.getLast? (Atom.ofText after ++ tail) := by
  -- the word ends where the text goes on with no letter or numeral, or where the tail begins
  have hstop : ∀ atom ∈ (Atom.ofText after ++ tail).head?, atom.isWordChar = false := by
    cases after with
    | nil => exact htail
    | cons d after =>
      rintro atom ⟨⟩
      exact hafter d rfl
  rw [Atom.ofText_append, List.append_assoc, shownFrom_item (run_token_word hword hne hstop),
    Operand.render]
  obtain ⟨c, word, rfl⟩ := List.exists_cons_of_ne_nil hne
  rw [joinParts, List.head?_cons, Option.any_some]
  by_cases hspace : runsTogether last c = true
  · rw [if_pos hspace, if_pos hspace]
    rfl
  · rw [if_neg hspace, if_neg hspace]
    rfl

/-- Behind its first letter, a word ends where a character stands that is no letter and no numeral. -/
theorem exists_word (text : Text) :
    ∃ word after, text = word ++ after ∧ (∀ c ∈ word, isAlphanumeric c = true) ∧
      ∀ c ∈ after.head?, isAlphanumeric c = false := by
  refine ⟨text.takeWhile isAlphanumeric, text.dropWhile isAlphanumeric,
    List.takeWhile_append_dropWhile.symm, fun c => List.mem_takeWhile_imp, fun c hc => ?_⟩
  have hhead := List.head?_dropWhile_not isAlphanumeric text
  rw [Option.mem_def.mp hc] at hhead
  exact hhead

/-- A text without control characters is closed up where it is shown, whatever follows that does not go
on with its last word. The invariant is that nothing is to be set apart unless something vanished. -/
theorem shownFrom_plain {back : Text} (htext : Plain text)
    (htail : ∀ atom ∈ tail.head?, atom.isWordChar = false)
    (hback : ∀ last, shownFrom last tail = back) {last : Option Char} {apart : Bool}
    (hapart : ∀ c ∈ text.head?, runsTogether last c = true → apart = true) :
    shownFrom last (Atom.ofText text ++ tail) = closeUpFrom last apart text ++ back := by
  induction hlength : text.length using Nat.strong_induction_on generalizing text last apart with
  | _ length ih =>
    subst hlength
    cases text with
    | nil => exact hback last
    | cons c text =>
      obtain ⟨hc, hplain⟩ := List.forall_mem_cons.mp htext
      by_cases hvanishes : vanishes c = true
      · rw [Atom.ofText_cons, List.cons_append, shownFrom_vanishing hvanishes, closeUpFrom,
          if_pos hvanishes]
        exact ih text.length (Nat.lt_succ_self _) hplain (fun _ _ _ => rfl) rfl
      · rw [Bool.not_eq_true] at hvanishes
        by_cases hword : isAlphanumeric c = true
        -- a letter or numeral is shown with the whole of its word
        · obtain ⟨front, after, rfl, hfront, hafter⟩ := exists_word text
          have hall : ∀ d ∈ c :: front, isAlphanumeric d = true :=
            List.forall_mem_cons.mpr ⟨hword, hfront⟩
          have hlater : shownFrom (c :: front).getLast? (Atom.ofText after ++ tail)
              = closeUpFrom (c :: front).getLast? false after ++ back := by
            apply ih after.length _ (fun d hd => hplain d (List.mem_append_right _ hd)) _ rfl
            · simp only [List.length_cons, List.length_append]
              omega
            · intro d hd hspace
              rw [runsTogether_eq_false _ (hafter d hd)] at hspace
              cases hspace
          have hspace : (apart && runsTogether last c) = runsTogether last c := by
            by_cases hdigit : runsTogether last c = true
            · rw [hapart c rfl hdigit, Bool.true_and]
            · rw [Bool.eq_false_iff.mpr hdigit, Bool.and_false]
          rw [← List.cons_append, shownFrom_word hall (List.cons_ne_nil c front) hafter htail, hlater,
            closeUpFrom_word (fun d hd => vanishes_of_isAlphanumeric (hall d hd))
              (List.cons_ne_nil c front),
            List.head?_cons, Option.any_some, hspace, List.append_assoc _ _ back]
        -- any other character is shown alone, and nothing is ever set apart from it
        · rw [Bool.not_eq_true] at hword
          rw [Atom.ofText_cons, List.cons_append, shownFrom_single hc hvanishes hword,
            closeUpFrom_cons hvanishes, runsTogether_eq_false last hword, Bool.and_false,
            if_neg Bool.false_ne_true]
          have hlater : shownFrom (some c) (Atom.ofText text ++ tail)
              = closeUpFrom (some c) false text ++ back := by
            apply ih text.length (Nat.lt_succ_self _) hplain _ rfl
            intro d _ hspace
            rw [runsTogether_behind hword] at hspace
            cases hspace
          rw [hlater]
          rfl

/-! ## Whole formulas -/

/-- No atom of such a formula is a control character. -/
theorem Plain.char_notMem (htext : Plain text) (hc : isControl c = true) :
    .char c ∉ Atom.ofText text := by
  intro hmem
  obtain ⟨d, hd, heq⟩ := List.mem_map.mp hmem
  cases heq
  rw [htext c hd] at hc
  cases hc

/-- A formula without a pair of braces is rendered in one pass. -/
theorem render_of_not_hasPair {formula : Text} (h : ¬ HasPair (Atom.ofText formula)) :
    render formula = renderFlat (Atom.ofText formula) :=
  renderAtoms_of_not_hasPair h

/-- The text of a sequence is what is shown of its tokens from the start. -/
theorem flatText_eq_shownFrom (atoms : List Atom) : flatText atoms = shownFrom none atoms := by
  rw [flatText, renderFlat_eq_renderTokens, renderTokens, Traced.value_bind, Traced.value_traverse]
  rfl

/-- A formula without control characters before a tail that is shown as the same text behind every
character. -/
theorem flatText_plain {back : Text} (htext : Plain text)
    (htail : ∀ atom ∈ tail.head?, atom.isWordChar = false)
    (hback : ∀ last, shownFrom last tail = back) :
    flatText (Atom.ofText text ++ tail) = closeUp text ++ back := by
  rw [flatText_eq_shownFrom, closeUp]
  apply shownFrom_plain htext htail hback
  intro c _ hspace
  rw [runsTogether, Option.any_none, Bool.and_false] at hspace
  cases hspace

/-- A formula without control characters is shown closed up. -/
theorem value_render_plain (htext : Plain text) : (render text).value = closeUp text := by
  have hpair : ¬ HasPair (Atom.ofText text) := fun h => htext.char_notMem rfl h.mem.1
  have hshown := flatText_plain htext (by simp) shownFrom_nil
  rw [List.append_nil, List.append_nil] at hshown
  rw [render_of_not_hasPair hpair]
  exact hshown

/-- Of a formula without control characters nothing is reported. -/
theorem trace_render_plain (htext : Plain text) : (render text).trace = [] := by
  have hpair : ¬ HasPair (Atom.ofText text) := fun h => htext.char_notMem rfl h.mem.1
  rw [render_of_not_hasPair hpair, renderFlat_eq, Traced.trace_bind, Traced.trace_traverse,
    Traced.trace_pure, List.append_nil, List.flatMap_eq_nil_iff]
  intro token htoken
  rcases token_plain htext htoken with rfl | ⟨operand, rfl⟩ <;> rfl

/-- **Formulas without control characters** are shown as they are written but for white space and
alignment marks, which vanish; one space is left of them between a letter or an ASCII digit and an ASCII
digit. Nothing is reported. A formula in which nothing vanishes is shown as it is. -/
theorem render_plain (formula : Text) (h : Plain formula) :
    (render formula).value = closeUp formula ∧ (render formula).trace = [] ∧
      ((∀ c ∈ formula, vanishes c = false) → (render formula).value = formula) := by
  refine ⟨value_render_plain h, trace_render_plain h, fun hkept => ?_⟩
  rw [value_render_plain h, closeUp_of_kept hkept]

/-- Numbers in a list, a fraction character among them. -/
theorem render_plain_list :
    Plain "x 2 & 3 , ½ 4y".toList ∧ (render "x 2 & 3 , ½ 4y".toList).value = "x 2 3,½4y".toList := by
  have hplain : Plain "x 2 & 3 , ½ 4y".toList := by decide
  refine ⟨hplain, ?_⟩
  rw [(render_plain _ hplain).1]
  decide

/-! ## Escaped braces

A backslash before a brace does not keep the brace from opening or closing a pair: pairs become groups
before escapes are read. -/

/-- An escaped brace is shown as the brace. -/
theorem render_escaped_brace :
    (Operand.escaped '{').render = ['{'] ∧ (Operand.escaped '}').render = ['}'] := by
  decide +kernel

/-- Nothing is shown of a backslash at the end. -/
theorem shownFrom_backslash (last : Option Char) : shownFrom last [.char '\\'] = [] := by
  have hrun : Token.scanner.run [.char '\\'] = some (.item none none (.char '\\'), []) := rfl
  rw [shownFrom_item hrun]
  exact shownFrom_nil last

/-- An escaped closing brace at the end is shown. -/
theorem shownFrom_escapedClose (last : Option Char) :
    shownFrom last [.char '\\', .char '}'] = ['}'] := by
  have hrun : Token.scanner.run [.char '\\', .char '}'] = some (.item none none (.escaped '}'), []) :=
    rfl
  have hspace : runsTogether last '}' = false := rfl
  rw [shownFrom_item hrun, render_escaped_brace.2, joinParts, hspace, if_neg Bool.false_ne_true]
  exact congrArg ('}' :: ·) (shownFrom_nil _)

/-- An escaped opening brace in front is shown. -/
theorem shownFrom_escapedOpen (rest : List Atom) :
    shownFrom none (.char '\\' :: .char '{' :: rest) = '{' :: shownFrom (some '{') rest := by
  have hrun : Token.scanner.run (.char '\\' :: .char '{' :: rest)
      = some (.item none none (.escaped '{'), rest) := rfl
  rw [shownFrom_item hrun, render_escaped_brace.1]
  rfl

/-- Of an escaped group its rendering is shown. -/
theorem shownFrom_escapedGroup (source rendered : Text) :
    shownFrom none [.char '\\', .group source rendered] = rendered := by
  have hrun : Token.scanner.run [.char '\\', .group source rendered]
      = some (.item none none (.group rendered), []) := rfl
  rw [shownFrom_item hrun, inkTokens, Token.all_nil]
  exact joinParts_singleton rendered

/-- Of a pair of escaped braces neither is shown. -/
theorem value_render_escapedPair (htext : Plain text) :
    (render (['\\', '{'] ++ text ++ ['\\', '}'])).value = closeUp text := by
  have hcontent : ∀ atom ∈ Atom.ofText text ++ [.char '\\'], atom.isBrace = false := by
    intro atom hatom
    rcases List.mem_append.mp hatom with hatom | hatom
    · apply Atom.isBrace_eq_false
      · rintro rfl
        exact htext.char_notMem rfl hatom
      · rintro rfl
        exact htext.char_notMem rfl hatom
    · rw [List.mem_singleton.mp hatom]
      rfl
  -- the second backslash is in the braces, where it is the last atom and nothing is shown of it
  have hpair : Collapsing flatText
      (.char '\\' :: (.char '{' :: (Atom.ofText text ++ [.char '\\']) ++ [.char '}']))
      [.char '\\', groupOf flatText (Atom.ofText text ++ [.char '\\'])] :=
    .atom rfl (.braces (by simp) (collapsing_of_forall hcontent) .nil)
  have hformula : Atom.ofText (['\\', '{'] ++ text ++ ['\\', '}'])
      = .char '\\' :: (.char '{' :: (Atom.ofText text ++ [.char '\\']) ++ [.char '}']) := by
    simp [Atom.ofText]
  have hshown : flatText (Atom.ofText text ++ [.char '\\']) = closeUp text ++ [] :=
    flatText_plain htext (by rintro _ ⟨⟩; rfl) shownFrom_backslash
  rw [← hformula] at hpair
  rw [hpair.value_render, groupOf, flatText_eq_shownFrom, shownFrom_escapedGroup, hshown,
    List.append_nil, Text.trim_of_trimmed (trimmed_closeUp text)]

/-- An escaped opening brace without its partner is shown. -/
theorem value_render_escapedOpen (htext : Plain text) :
    (render (['\\', '{'] ++ text)).value = '{' :: closeUp text := by
  have hpair : ¬ HasPair (Atom.ofText (['\\', '{'] ++ text)) := fun h =>
    htext.char_notMem rfl (by simpa using h.mem.2)
  have hshown : shownFrom (some '{') (Atom.ofText text ++ []) = closeUpFrom (some '{') false text ++ [] :=
    shownFrom_plain htext (by simp) shownFrom_nil fun c _ hspace => by
      rw [runsTogether_behind (by decide)] at hspace
      cases hspace
  rw [List.append_nil, List.append_nil, closeUpFrom_behind (by decide)] at hshown
  rw [render_of_not_hasPair hpair]
  show flatText (.char '\\' :: .char '{' :: Atom.ofText text) = '{' :: closeUp text
  rw [flatText_eq_shownFrom, shownFrom_escapedOpen, hshown, closeUp]

/-- An escaped closing brace without its partner is shown. -/
theorem value_render_escapedClose (htext : Plain text) :
    (render (text ++ ['\\', '}'])).value = closeUp text ++ ['}'] := by
  have hpair : ¬ HasPair (Atom.ofText (text ++ ['\\', '}'])) := fun h =>
    htext.char_notMem rfl (by simpa using h.mem.1)
  rw [render_of_not_hasPair hpair, Atom.ofText_append]
  exact flatText_plain htext (by rintro _ ⟨⟩; rfl) shownFrom_escapedClose

/-- **Escaped braces around a text are not shown.** They are a pair, so that the text and the second
backslash become a group; nothing is shown of a backslash before a group or at the end of one. An escaped
brace without a partner is shown. -/
theorem render_escaped (text : Text) (h : Plain text) :
    (render (['\\', '{'] ++ text ++ ['\\', '}'])).value = (render text).value ∧
      (render (['\\', '{'] ++ text)).value = '{' :: (render text).value ∧
      (render (text ++ ['\\', '}'])).value = (render text).value ++ ['}'] ∧
      (render ['\\', '{']).value = ['{'] := by
  have hnone : Plain [] := fun c hc => (List.not_mem_nil hc).elim
  rw [value_render_plain h]
  exact ⟨value_render_escapedPair h, value_render_escapedOpen h, value_render_escapedClose h,
    value_render_escapedOpen hnone⟩

/-- A list in escaped braces is shown like the list. -/
theorem render_escaped_list :
    Plain "a,2".toList ∧
      (render (['\\', '{'] ++ "a,2".toList ++ ['\\', '}'])).value = (render "a,2".toList).value :=
  ⟨by decide, (render_escaped _ (by decide)).1⟩

/-- The braces around a text of letters, digits and commas are not shown. -/
theorem render_escaped_not_literal :
    ¬ ∀ text : Text, text ≠ [] → (∀ c ∈ text, c.isAlphanum = true ∨ c = ',') →
      (render (['\\', '{'] ++ text ++ ['\\', '}'])).value = '{' :: (render text).value ++ ['}'] := by
  intro hliteral
  have hshown := hliteral ['a'] (List.cons_ne_nil _ _) (by simp)
  rw [value_render_escapedPair (by decide), value_render_plain (by decide)] at hshown
  exact absurd hshown (by decide)

end WikiText.Formula
