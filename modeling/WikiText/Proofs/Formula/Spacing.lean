import WikiText.Proofs.Formula.Reading
import WikiText.Proofs.Text.Squeeze
import WikiText.Proofs.Unicode.Blanks

/-!
# White space between atoms

A sequence of atoms may be squeezed: each longest run of white space becomes one space, in the sequence
and in the source of its groups. Scanners read the same of it (`Steady`), with one exception: a script
takes one character of white space as its operand and leaves the others of the run, of which none are
left in the squeezed sequence. What is left is the same up to white space at its front then (`Loose`).

Both judgements have one rule for each way to put scanners together. Where white space is skipped next,
it does not matter that the one before is loose (`Loose.bind_space`), so that a token is loose at its
end only (`loose_token`).
-/

namespace WikiText.Formula

open Scanner
open Text (NoBlankBehind)
open Unicode (isWhiteSpace)

/-! ## Squeezed sequences -/

namespace Atom

/-- An atom of a squeezed sequence. -/
def squeezed : Atom → Atom
  | char c => char (if isWhiteSpace c then ' ' else c)
  | group source rendered => group (Text.squeeze isWhiteSpace source) rendered

/-- A character that is no white space is kept. -/
theorem squeezed_char {c : Char} (h : isWhiteSpace c = false) : (char c).squeezed = char c := by
  rw [squeezed, h]
  rfl

/-- A blank becomes a space. -/
theorem squeezed_of_isBlank {atom : Atom} (h : atom.isBlank = true) : atom.squeezed = char ' ' := by
  cases atom with
  | char c => exact congrArg char (if_pos h)
  | group source rendered => cases h

/-- A property of characters that white space has as the space does is one of squeezed atoms. -/
theorem isCharOf_squeezed {p : Char → Bool} (h : ∀ c, isWhiteSpace c = true → p c = p ' ')
    (atom : Atom) : isCharOf p atom.squeezed = isCharOf p atom := by
  cases atom with
  | char c =>
    by_cases hc : isWhiteSpace c = true
    · rw [squeezed_of_isBlank (show (char c).isBlank = true from hc)]
      exact (h c hc).symm
    · rw [squeezed_char (eq_false_of_ne_true hc)]
  | group source rendered => rfl

/-- A property that no white space has is one of squeezed atoms. -/
theorem isCharOf_squeezed_of_forall {p : Char → Bool}
    (h : ∀ c, isWhiteSpace c = true → p c = false) (atom : Atom) :
    isCharOf p atom.squeezed = isCharOf p atom :=
  isCharOf_squeezed (fun c hc => by rw [h c hc, h ' ' (by decide)]) atom

/-- Squeezing makes no blank and removes none. -/
theorem isBlank_squeezed (atom : Atom) : atom.squeezed.isBlank = atom.isBlank :=
  isCharOf_squeezed (fun _ hc => hc.trans (by decide)) atom

/-- A character of ink is what it is in a squeezed sequence, and nothing else becomes it. -/
theorem squeezed_beq_char {c : Char} (h : isWhiteSpace c = false) (atom : Atom) :
    (atom.squeezed == char c) = (atom == char c) := by
  have hsame := isCharOf_squeezed_of_forall (p := (· == c)) (fun d hd => by
    rw [beq_eq_false_iff_ne]
    rintro rfl
    rw [h] at hd
    cases hd) atom
  have hbeq : ∀ other : Atom, (other == char c) = isCharOf (· == c) other := by
    intro other
    cases other <;> simp [isCharOf]
  rw [hbeq, hbeq, hsame]

/-- Squeezing makes no ink that was not there. -/
theorem squeezed_eq_char_iff {c : Char} (h : isWhiteSpace c = false) {atom : Atom} :
    atom.squeezed = char c ↔ atom = char c := by
  rw [← beq_iff_eq, squeezed_beq_char h, beq_iff_eq]

end Atom

/-- A sequence with each longest run of white space written as one space. -/
def squeeze : List Atom → List Atom
  | [] => []
  | atom :: rest =>
    if atom.isBlank && rest.head?.any Atom.isBlank then squeeze rest
    else atom.squeezed :: squeeze rest

variable {atoms rest : List Atom} {atom : Atom}

/-- An atom in front that is no blank is squeezed by itself. -/
theorem squeeze_cons_of_ink (h : atom.isBlank = false) (rest : List Atom) :
    squeeze (atom :: rest) = atom.squeezed :: squeeze rest := by
  rw [squeeze, h, Bool.false_and, if_neg Bool.false_ne_true]

/-- An ink character stays where it is. -/
theorem squeeze_char_cons {c : Char} (h : isWhiteSpace c = false) (rest : List Atom) :
    squeeze (.char c :: rest) = .char c :: squeeze rest := by
  rw [squeeze_cons_of_ink (show (Atom.char c).isBlank = false from h), Atom.squeezed_char h]

/-- The first atom stays in front. -/
theorem head?_squeeze (atoms : List Atom) : (squeeze atoms).head? = atoms.head?.map Atom.squeezed := by
  induction atoms with
  | nil => rfl
  | cons atom rest ih =>
    rw [squeeze]
    split
    · next hblank =>
      obtain ⟨hatom, hrest⟩ := Bool.and_eq_true_iff.mp hblank
      obtain ⟨next, hnext, hnextBlank⟩ := (Option.any_eq_true _ _).mp hrest
      rw [ih, hnext, List.head?_cons, Option.map_some, Option.map_some,
        Atom.squeezed_of_isBlank hatom, Atom.squeezed_of_isBlank hnextBlank]
    · rfl

/-- The first atom stays the first one. -/
theorem exists_squeeze_cons (atom : Atom) (rest : List Atom) :
    ∃ tail, squeeze (atom :: rest) = atom.squeezed :: tail :=
  List.head?_eq_some_iff.mp (head?_squeeze (atom :: rest))

/-- Sequences of which the second begins with ink are squeezed each by itself. -/
theorem squeeze_append (h : rest.head?.any Atom.isBlank = false) (atoms : List Atom) :
    squeeze (atoms ++ rest) = squeeze atoms ++ squeeze rest := by
  induction atoms with
  | nil => rfl
  | cons atom atoms ih =>
    have hhead : (atoms ++ rest).head?.any Atom.isBlank = atoms.head?.any Atom.isBlank := by
      cases atoms with
      | nil => simpa using h
      | cons other atoms => rfl
    rw [List.cons_append, squeeze, squeeze, hhead, ih]
    split <;> rfl

/-- Squeezing empties no sequence. -/
theorem squeeze_eq_nil_iff : squeeze atoms = [] ↔ atoms = [] := by
  rw [← List.head?_eq_none_iff, head?_squeeze, Option.map_eq_none_iff, List.head?_eq_none_iff]

/-- A sequence without white space and groups is squeezed already. -/
theorem squeeze_eq_self {p : Char → Bool} (hp : ∀ c, isWhiteSpace c = true → p c = false)
    (h : ∀ atom ∈ atoms, Atom.isCharOf p atom = true) : squeeze atoms = atoms := by
  induction atoms with
  | nil => rfl
  | cons atom rest ih =>
    have hatom := h atom List.mem_cons_self
    cases atom with
    | char c =>
      have hc : isWhiteSpace c = false := by
        by_contra hblank
        rw [Atom.isCharOf, hp c (eq_true_of_ne_false hblank)] at hatom
        cases hatom
      rw [squeeze_char_cons hc, ih fun other hother => h other (List.mem_cons_of_mem _ hother)]
    | group source rendered => cases hatom

/-- White space in front goes with the white space behind it. -/
theorem squeeze_cons_of_blank (h : atom.isBlank = true) (rest : List Atom) :
    squeeze (atom :: rest)
      = if rest.head?.any Atom.isBlank then squeeze rest else .char ' ' :: squeeze rest := by
  rw [squeeze, h, Bool.true_and, Atom.squeezed_of_isBlank h]

section

variable {p : Atom → Bool} (hp : ∀ atom : Atom, p atom.squeezed = p atom)

include hp

/-- Where a run that takes white space along goes on, white space goes on. -/
theorem any_head?_takeWhile (hatom : atom.isBlank = true) (h : p atom = true) (rest : List Atom) :
    (rest.takeWhile p).head?.any Atom.isBlank = rest.head?.any Atom.isBlank := by
  cases rest with
  | nil => rfl
  | cons next rest =>
    by_cases hnext : p next = true
    · rw [List.takeWhile_cons_of_pos hnext]
      rfl
    · rw [List.takeWhile_cons_of_neg hnext]
      have hink : next.isBlank = false := by
        by_contra hblank
        rw [← hp, Atom.squeezed_of_isBlank (eq_true_of_ne_false hblank),
          ← Atom.squeezed_of_isBlank hatom, hp] at hnext
        exact hnext h
      exact hink.symm

/-- A run in a squeezed sequence is a squeezed run, and so is what is behind it. -/
theorem span_squeeze (atoms : List Atom) :
    (squeeze atoms).takeWhile p = squeeze (atoms.takeWhile p) ∧
      (squeeze atoms).dropWhile p = squeeze (atoms.dropWhile p) := by
  induction atoms with
  | nil => exact ⟨rfl, rfl⟩
  | cons atom rest ih =>
    obtain ⟨htake, hdrop⟩ := ih
    by_cases h : p atom = true
    · rw [List.takeWhile_cons_of_pos h, List.dropWhile_cons_of_pos h, squeeze, squeeze]
      have hhead : (atom.isBlank && (rest.takeWhile p).head?.any Atom.isBlank)
          = (atom.isBlank && rest.head?.any Atom.isBlank) := by
        cases hatom : atom.isBlank with
        | false => rfl
        | true => exact any_head?_takeWhile hp hatom h rest
      rw [hhead]
      split
      · exact ⟨htake, hdrop⟩
      · rw [List.takeWhile_cons_of_pos (by rwa [hp]), List.dropWhile_cons_of_pos (by rwa [hp]), htake]
        exact ⟨rfl, hdrop⟩
    · obtain ⟨tail, htail⟩ := exists_squeeze_cons atom rest
      have hneg : ¬ p atom.squeezed = true := by rwa [hp]
      rw [List.takeWhile_cons_of_neg h, List.dropWhile_cons_of_neg h, htail,
        List.takeWhile_cons_of_neg hneg, List.dropWhile_cons_of_neg hneg]
      exact ⟨rfl, rfl⟩

end

/-! ### Squeezed sources -/

/-- The atoms of a text are squeezed as the text is. -/
theorem squeeze_ofText (text : Text) :
    squeeze (Atom.ofText text) = Atom.ofText (Text.squeeze isWhiteSpace text) := by
  induction text with
  | nil => rfl
  | cons c text ih =>
    rw [Atom.ofText_cons]
    by_cases hc : isWhiteSpace c = true
    · have hhead : (Atom.ofText text).head?.any Atom.isBlank = text.head?.any isWhiteSpace := by
        cases text <;> rfl
      rw [squeeze_cons_of_blank (show (Atom.char c).isBlank = true from hc), Text.squeeze, if_pos hc,
        hhead, ih]
      split <;> rfl
    · have hc := eq_false_of_ne_true hc
      rw [squeeze_char_cons hc, Text.squeeze_cons_of_neg hc, ih]
      rfl

/-- The source is squeezed as the atoms are. -/
theorem sourceOf_squeeze (atoms : List Atom) :
    Atom.sourceOf (squeeze atoms) = Text.squeeze isWhiteSpace (Atom.sourceOf atoms) := by
  induction atoms with
  | nil => rfl
  | cons atom rest ih =>
    rw [Atom.sourceOf_cons]
    cases atom with
    | char c =>
      by_cases hc : isWhiteSpace c = true
      · have hsource : (Atom.char c).source ++ Atom.sourceOf rest = c :: Atom.sourceOf rest := rfl
        have hhead : (Atom.sourceOf rest).head?.any isWhiteSpace = rest.head?.any Atom.isBlank :=
          Atom.any_head?_sourceOf (by decide) rest
        rw [squeeze_cons_of_blank (show (Atom.char c).isBlank = true from hc), hsource, Text.squeeze,
          if_pos hc, hhead, ← ih]
        split <;> rfl
      · have hc := eq_false_of_ne_true hc
        rw [squeeze_char_cons hc, Atom.sourceOf_cons, ih]
        exact (Text.squeeze_cons_of_neg hc _).symm
    | group source rendered =>
      have hsource : (Atom.group source rendered).source ++ Atom.sourceOf rest
          = '{' :: (source ++ '}' :: Atom.sourceOf rest) := by
        simp [Atom.source]
      rw [squeeze_cons_of_ink rfl, Atom.sourceOf_cons, ih, hsource,
        Text.squeeze_cons_of_neg (by decide), Text.squeeze_append_cons (by decide)]
      simp [Atom.squeezed, Atom.source]

/-! ## Scanners -/

/-- A sequence without the white space at its front. -/
def inked (atoms : List Atom) : List Atom :=
  atoms.dropWhile Atom.isBlank

/-- No white space stands directly behind a backslash. -/
def Unescaped (atoms : List Atom) : Prop :=
  NoBlankBehind '\\' (Atom.sourceOf atoms)

/-- No part of such a sequence has an escaped blank. -/
theorem Unescaped.of_infix {part : List Atom} (h : Unescaped atoms) (hpart : part <:+: atoms) :
    Unescaped part :=
  NoBlankBehind.of_infix h (Atom.sourceOf_infix hpart)

/-- The blanks in front are dropped before squeezing or after it. -/
theorem inked_squeeze (atoms : List Atom) : inked (squeeze atoms) = squeeze (inked atoms) :=
  (span_squeeze Atom.isBlank_squeezed atoms).2

section

variable {α β γ δ : Type} {f : α → β} {g : γ → δ} {scanner : Scanner Atom α}
  {scanner' : Scanner Atom β}

/-- One scanner reads of a squeezed sequence what another reads of the sequence, and leaves what that
one leaves, squeezed. -/
def Steady (f : α → β) (scanner : Scanner Atom α) (scanner' : Scanner Atom β) : Prop :=
  ∀ atoms, Unescaped atoms →
    scanner'.run (squeeze atoms) = (scanner.run atoms).map (Prod.map f squeeze)

/-- One scanner reads of a squeezed sequence what another reads of the sequence, and leaves what that
one leaves, squeezed, up to white space at its front. -/
def Loose (f : α → β) (scanner : Scanner Atom α) (scanner' : Scanner Atom β) : Prop :=
  ∀ atoms, Unescaped atoms →
    (scanner'.run (squeeze atoms)).map (Prod.map id inked)
      = (scanner.run atoms).map (Prod.map f (inked ∘ squeeze))

/-- A scanner that is steady is loose. -/
theorem Steady.loose (h : Steady f scanner scanner') : Loose f scanner scanner' := by
  intro atoms hatoms
  rw [h atoms hatoms, Option.map_map]
  rfl

theorem Steady.pure (f : α → β) (a : α) : Steady f (pure a) (pure (f a)) :=
  fun _ _ => rfl

theorem Steady.bind {next : α → Scanner Atom γ} {next' : β → Scanner Atom δ}
    (h : Steady f scanner scanner') (hnext : ∀ a, Steady g (next a) (next' (f a))) :
    Steady g (scanner >>= next) (scanner' >>= next') := by
  intro atoms hatoms
  rw [run_bind, run_bind, h atoms hatoms]
  cases hrun : scanner.run atoms with
  | none => rfl
  | some found =>
    exact hnext found.1 found.2 (hatoms.of_infix (scanner.suffix hrun).isInfix)

/-- The second of two scanners may be loose, and then they are loose together. -/
theorem Steady.bind_loose {next : α → Scanner Atom γ} {next' : β → Scanner Atom δ}
    (h : Steady f scanner scanner') (hnext : ∀ a, Loose g (next a) (next' (f a))) :
    Loose g (scanner >>= next) (scanner' >>= next') := by
  intro atoms hatoms
  rw [run_bind, run_bind, h atoms hatoms]
  cases hrun : scanner.run atoms with
  | none => rfl
  | some found =>
    exact hnext found.1 found.2 (hatoms.of_infix (scanner.suffix hrun).isInfix)

/-- White space that is left over is skipped. -/
theorem Loose.bind_space {next : α → Scanner Atom γ} {next' : β → Scanner Atom δ}
    (h : Loose f scanner scanner') (hnext : ∀ a, Loose g (next a) (next' (f a))) :
    Loose g (scanner >>= fun a => space >>= fun _ => next a)
      (scanner' >>= fun b => space >>= fun _ => next' b) := by
  intro atoms hatoms
  -- the space read behind makes what is left start with ink, so both sides go on from the same place
  have hskip : ∀ {ε ζ : Type} (scanner : Scanner Atom ε) (next : ε → Scanner Atom ζ)
      (atoms : List Atom), (scanner >>= fun a => space >>= fun _ => next a).run atoms
        = ((scanner.run atoms).map (Prod.map id inked)).bind fun (a, rest) => (next a).run rest := by
    intro ε ζ scanner next atoms
    rw [run_bind, Option.bind_map]
    rfl
  rw [hskip, hskip, h atoms hatoms]
  cases hrun : scanner.run atoms with
  | none => rfl
  | some found =>
    have hrest : Unescaped (inked found.2) :=
      hatoms.of_infix ((List.dropWhile_suffix _).trans (scanner.suffix hrun)).isInfix
    show ((next' (f found.1)).run (inked (squeeze found.2))).map _ = _
    rw [inked_squeeze]
    exact hnext found.1 (inked found.2) hrest

/-- A value that is made of what a loose scanner reads is read loosely. -/
theorem Loose.bind_pure (h : Loose f scanner scanner') (value : α → γ) (value' : β → δ)
    (hvalue : ∀ a, value' (f a) = g (value a)) :
    Loose g (scanner >>= fun a => pure (value a)) (scanner' >>= fun b => pure (value' b)) := by
  intro atoms hatoms
  have hmap : ∀ {ε ζ : Type} (scanner : Scanner Atom ε) (value : ε → ζ) (atoms : List Atom),
      (scanner >>= fun a => pure (value a)).run atoms
        = (scanner.run atoms).map (Prod.map value id) := by
    intro ε ζ scanner value atoms
    rw [run_bind, Option.map_eq_bind]
    rfl
  have hswap : Prod.map id inked ∘ Prod.map value' id = Prod.map value' id ∘ Prod.map id inked := rfl
  rw [hmap, hmap, Option.map_map, hswap, ← Option.map_map, h atoms hatoms, Option.map_map,
    Option.map_map]
  refine Option.map_congr fun found _ => ?_
  exact Prod.ext (hvalue found.1) rfl

theorem Steady.orElse {second : Scanner Atom α} {second' : Scanner Atom β}
    (h : Steady f scanner scanner') (h' : Steady f second second') :
    Steady f (scanner <|> second) (scanner' <|> second') := by
  intro atoms hatoms
  rw [run_orElse, run_orElse, h atoms hatoms, h' atoms hatoms, Option.map_or]

theorem Loose.orElse {second : Scanner Atom α} {second' : Scanner Atom β}
    (h : Loose f scanner scanner') (h' : Loose f second second') :
    Loose f (scanner <|> second) (scanner' <|> second') := by
  intro atoms hatoms
  rw [run_orElse, run_orElse, Option.map_or, Option.map_or, h atoms hatoms, h' atoms hatoms]

/-- The first that succeeds of steady scanners is steady. -/
theorem Steady.firstOf {scanners : List (Scanner Atom α)}
    (h : ∀ scanner ∈ scanners, Steady id scanner scanner) :
    Steady id (firstOf scanners) (firstOf scanners) := by
  induction scanners with
  | nil => exact fun _ _ => rfl
  | cons scanner others ih =>
    exact (h scanner List.mem_cons_self).orElse
      (ih fun other hother => h other (List.mem_cons_of_mem scanner hother))

/-- A value that squeezing does not change is steady. -/
theorem steady_ofOption {f : α → α} {value : Option α} (h : ∀ a ∈ value, f a = a) :
    Steady f (ofOption value) (ofOption value) := by
  intro atoms _
  cases value with
  | none => rfl
  | some a =>
    exact congrArg (fun b => some (b, squeeze atoms)) (h a rfl).symm

end

/-! ### Basic scanners -/

/-- A character that is no white space is read steadily. -/
theorem steady_one {c : Char} (h : isWhiteSpace c = false) :
    Steady id (one (.char c)) (one (.char c)) := by
  intro atoms _
  cases atoms with
  | nil => rfl
  | cons atom rest =>
    by_cases hatom : atom = .char c
    · subst hatom
      rw [squeeze_char_cons h, run_one_self, run_one_self]
      rfl
    · obtain ⟨tail, htail⟩ := exists_squeeze_cons atom rest
      rw [htail, run_one_of_ne (mt (Atom.squeezed_eq_char_iff h).mp hatom), run_one_of_ne hatom]
      rfl

section

variable {p : Atom → Bool} (hp : ∀ atom : Atom, p atom.squeezed = p atom)

include hp

/-- A run of atoms is squeezed, if the test is the same for all blanks. -/
theorem steady_takeWhile : Steady squeeze (takeWhile p) (takeWhile p) := by
  intro atoms _
  obtain ⟨htake, hdrop⟩ := span_squeeze hp atoms
  exact congrArg some (Prod.ext htake hdrop)

/-- A nonempty run of atoms is squeezed, if the test is the same for all blanks. -/
theorem steady_takeWhile1 : Steady squeeze (takeWhile1 p) (takeWhile1 p) := by
  intro atoms _
  obtain ⟨htake, hdrop⟩ := span_squeeze hp atoms
  rw [run_takeWhile1, run_takeWhile1, htake, hdrop]
  by_cases hnil : atoms.takeWhile p = []
  · rw [if_pos hnil, if_pos (squeeze_eq_nil_iff.mpr hnil)]
    rfl
  · rw [if_neg hnil, if_neg (mt squeeze_eq_nil_iff.mp hnil)]
    rfl

/-- A look at the next atom is steady. -/
theorem steady_notBefore : Steady id (notBefore p) (notBefore p) := by
  intro atoms _
  have hhead : (squeeze atoms).head?.any p = atoms.head?.any p := by
    rw [head?_squeeze]
    cases atoms with
    | nil => rfl
    | cons atom rest => exact hp atom
  show (if (squeeze atoms).head?.any p = true then none else some ((), squeeze atoms))
    = Option.map _ (if atoms.head?.any p = true then none else some ((), atoms))
  rw [hhead]
  split <;> rfl

end

/-- What stands before a character that is no white space is squeezed. -/
theorem steady_upTo {c : Char} (h : isWhiteSpace c = false) :
    Steady squeeze (upTo (one (.char c))) (upTo (one (.char c))) := by
  intro atoms _
  have hp : ∀ atom : Atom, (atom.squeezed != .char c) = (atom != .char c) := fun atom => by
    rw [bne, bne, Atom.squeezed_beq_char h]
  obtain ⟨htake, hdrop⟩ := span_squeeze (p := (· != .char c)) hp atoms
  show upToRun (one (.char c)) (squeeze atoms) = (upToRun (one (.char c)) atoms).map _
  rw [upToRun_one, upToRun_one, htake, hdrop]
  cases hrest : atoms.dropWhile (· != .char c) with
  | nil => rfl
  | cons atom rest =>
    -- what stopped the run is the closing character, which squeezing leaves alone
    obtain rfl : atom = .char c := by
      have hstop := List.head?_dropWhile_not (· != Atom.char c) atoms
      rw [hrest] at hstop
      simpa using hstop
    rw [squeeze_char_cons h]
    rfl

/-- Spaces are skipped steadily. -/
theorem steady_space : Steady id space space :=
  (steady_takeWhile Atom.isBlank_squeezed).bind fun _ => .pure id ()

/-- A run of characters among which there is no white space is read as it is. -/
theorem steady_run {q : Char → Bool} (hq : ∀ c, isWhiteSpace c = true → q c = false) :
    Steady id (takeWhile1 (Atom.isCharOf q)) (takeWhile1 (Atom.isCharOf q)) := by
  intro atoms hatoms
  have hself : squeeze (atoms.takeWhile (Atom.isCharOf q)) = atoms.takeWhile (Atom.isCharOf q) :=
    squeeze_eq_self hq fun _ hmem => List.mem_takeWhile_imp hmem
  rw [steady_takeWhile1 (Atom.isCharOf_squeezed_of_forall hq) atoms hatoms, run_takeWhile1]
  split
  · rfl
  · rw [Option.map_some, Option.map_some, Prod.map, Prod.map, hself]
    rfl

/-- Commands are read steadily. -/
theorem steady_command : Steady id command command :=
  (steady_one (by decide)).bind fun _ =>
    (steady_run fun _ => Unicode.isAlpha_of_isWhiteSpace).bind fun _ => .pure id _

/-! ### Idioms -/

/-- A text without white space is spelled by the same atoms after squeezing. -/
theorem spellRun_squeeze {text : Text} (htext : ∀ c ∈ text, isWhiteSpace c = false)
    (atoms : List Atom) :
    spellRun text (squeeze atoms) = (spellRun text atoms).map (Prod.map id squeeze) := by
  fun_induction spellRun text atoms with
  | case1 atoms =>
    rw [spellRun]
    rfl
  | case2 c text => rfl
  | case3 text d atoms ih =>
    rw [squeeze_char_cons (htext d List.mem_cons_self), spellRun, if_pos rfl]
    exact ih fun c hc => htext c (List.mem_cons_of_mem d hc)
  | case4 c text d atoms hne =>
    -- white space spells out no more of the text as a space than it did
    obtain ⟨tail, htail⟩ := exists_squeeze_cons (.char d) atoms
    have hother : c ≠ if isWhiteSpace d then ' ' else d := by
      split
      · rintro rfl
        exact absurd (htext ' ' List.mem_cons_self) (by decide)
      · exact hne
    rw [htail, Atom.squeezed, spellRun, if_neg hother]
    rfl
  | case5 c text source rendered atoms spelled hspelled ih =>
    have hfront := List.isPrefixOf_iff_prefix.mp hspelled
    have hself : Text.squeeze isWhiteSpace source = source := by
      apply Text.squeeze_of_forall_neg
      intro d hd
      exact htext d (hfront.subset (List.mem_cons_of_mem _ (List.mem_append_left _ hd)))
    rw [squeeze_cons_of_ink rfl, Atom.squeezed, hself, spellRun, if_pos hspelled]
    exact ih fun d hd => htext d ((List.drop_suffix _ _).subset hd)
  | case6 c text source rendered atoms spelled hspelled =>
    have hother : ¬ (Atom.group (Text.squeeze isWhiteSpace source) []).source.isPrefixOf (c :: text)
        = true := by
      intro hsqueezed
      have hfront := List.isPrefixOf_iff_prefix.mp hsqueezed
      have hself : Text.squeeze isWhiteSpace source = source := by
        apply Text.squeeze_eq_self (by decide)
        intro d hd
        exact htext d (hfront.subset (List.mem_cons_of_mem _ (List.mem_append_left _ hd)))
      rw [hself] at hsqueezed
      exact hspelled hsqueezed
    rw [squeeze_cons_of_ink rfl, Atom.squeezed, spellRun, if_neg hother]
    rfl

/-- The spelling of a text without white space is steady. -/
theorem steady_spell {text : Text} (htext : ∀ c ∈ text, isWhiteSpace c = false) :
    Steady id (spell text) (spell text) :=
  fun atoms _ => spellRun_squeeze htext atoms

/-- Idioms are read steadily. -/
theorem steady_idiom : Steady id idiom idiom := by
  apply Steady.firstOf
  intro scanner hscanner
  obtain ⟨spelling, hspelling, rfl⟩ := List.mem_map.mp hscanner
  have hidioms : ∀ spelling ∈ idioms, spelling.toList.any isWhiteSpace = false := by
    decide +kernel
  have hink : ∀ c ∈ spelling.toList, isWhiteSpace c = false := fun c hc =>
    eq_false_of_ne_true (List.any_eq_false.mp (hidioms spelling hspelling) c hc)
  have hletter : ∀ atom : Atom, atom.squeezed.isLetter = atom.isLetter :=
    Atom.isCharOf_squeezed_of_forall fun _ => Unicode.isAlpha_of_isWhiteSpace
  unfold idiomOf
  refine (steady_spell hink).bind fun _ => ?_
  split
  · exact (steady_notBefore hletter).bind fun _ => steady_ofOption fun _ _ => rfl
  · exact steady_ofOption fun _ _ => rfl

/-! ### Operands -/

/-- Behind white space, squeezing goes on behind all of it. -/
theorem squeeze_blank_cons (h : atom.isBlank = true) (rest : List Atom) :
    squeeze (atom :: rest) = .char ' ' :: squeeze (inked rest) := by
  induction rest generalizing atom with
  | nil => rw [squeeze_cons_of_blank h]; rfl
  | cons next rest ih =>
    rw [squeeze_cons_of_blank h, List.head?_cons, Option.any_some]
    by_cases hnext : next.isBlank = true
    · have hskip : inked (next :: rest) = inked rest := List.dropWhile_cons_of_pos hnext
      rw [if_pos hnext, ih hnext, hskip]
    · have hkeep : inked (next :: rest) = next :: rest := List.dropWhile_cons_of_neg hnext
      rw [if_neg hnext, hkeep]

/-- An operand that is read from a squeezed sequence. -/
def Operand.squeezed : Operand → Operand
  | char c => char (if isWhiteSpace c then ' ' else c)
  | operand => operand

/-- One character of white space is an operand, and the others are left. -/
theorem loose_single : Loose Operand.squeezed Operand.single Operand.single := by
  intro atoms _
  cases atoms with
  | nil => rfl
  | cons atom rest =>
    -- only a blank changes when squeezed, and then the blanks behind it are skipped anyway
    by_cases hatom : atom.isBlank = true
    · cases atom with
      | group source rendered => cases hatom
      | char c =>
        have hc : (Operand.char c).squeezed = .char ' ' := congrArg Operand.char (if_pos hatom)
        rw [squeeze_blank_cons hatom]
        show some (Operand.char ' ', inked (squeeze (inked rest)))
          = some ((Operand.char c).squeezed, inked (squeeze rest))
        rw [hc, inked_squeeze, inked_squeeze, inked, inked, List.dropWhile_idempotent]
    · rw [squeeze_cons_of_ink (eq_false_of_ne_true hatom)]
      cases atom <;> rfl

/-- What follows a backslash is read steadily. -/
theorem steady_afterBackslash :
    Steady Operand.squeezed Operand.afterBackslash Operand.afterBackslash := by
  intro atoms hatoms
  rw [Operand.afterBackslash, run_bind, run_bind, steady_one (by decide) atoms hatoms]
  cases hrun : (one (Atom.char '\\')).run atoms with
  | none => rfl
  | some found =>
    obtain ⟨_, rest⟩ := found
    rw [run_one_eq_some.mp hrun] at hatoms
    cases rest with
    | nil => rfl
    | cons next rest =>
      -- the sequence has no escaped blank, so the atom behind the backslash is squeezed by itself
      have hnext : next.isBlank = false := by
        cases next with
        | group source rendered => rfl
        | char c =>
          have hbehind : NoBlankBehind '\\' ('\\' :: c :: Atom.sourceOf rest) := hatoms
          exact (Text.noBlankBehind_cons_iff.mp hbehind).1 rfl
      show (any >>= _).run (squeeze (next :: rest))
        = Option.map _ ((any >>= _).run (next :: rest))
      rw [squeeze_cons_of_ink hnext]
      cases next with
      | group source rendered => rfl
      | char c =>
        rw [Atom.squeezed_char hnext]
        rfl

/-- Words are read steadily. -/
theorem steady_wordRun : Steady Operand.squeezed Operand.wordRun Operand.wordRun :=
  (steady_run fun _ => Unicode.isAlphanumeric_of_isWhiteSpace).bind fun _ =>
    .pure Operand.squeezed (.word _)

/-- Operands are read loosely, since one may be a blank. -/
theorem loose_operand : Loose Operand.squeezed Operand.scanner Operand.scanner := by
  refine (Steady.loose ?_).orElse ((Steady.loose steady_afterBackslash).orElse
    ((Steady.loose steady_wordRun).orElse loose_single))
  exact Steady.bind steady_command fun name => Steady.bind steady_space fun _ =>
    .pure Operand.squeezed (.command name)

/-- The operands of scripts are read loosely. -/
theorem loose_narrow : Loose Operand.squeezed Operand.narrowScanner Operand.narrowScanner := by
  refine (Steady.loose ?_).orElse ((Steady.loose ?_).orElse
    ((Steady.loose steady_afterBackslash).orElse loose_single))
  · exact Steady.bind steady_idiom fun symbol => .pure Operand.squeezed (.idiom symbol)
  · exact Steady.bind steady_command fun name => .pure Operand.squeezed (.command name)

/-! ### Tokens -/

/-- A modifier that is read from a squeezed sequence. -/
def Modifier.squeezed : Modifier → Modifier
  | root degree => root (degree.map squeeze)
  | modifier => modifier

/-- A token that is read from a squeezed sequence. -/
def Token.squeezed : Token → Token
  | ratio kind upper lower => ratio kind upper.squeezed lower.squeezed
  | item modifier shift operand => item (modifier.map Modifier.squeezed) shift operand.squeezed
  | token => token

/-- Marks of scripts are read steadily. -/
theorem steady_shift : Steady id Shift.scanner Shift.scanner :=
  have hmark : ∀ (c : Char) (shift : Shift), isWhiteSpace c = false →
      Steady id (do one (.char c); return shift) (do one (.char c); return shift) :=
    fun c shift hc => (steady_one hc).bind fun _ => .pure id shift
  (hmark '_' .lowered (by decide)).orElse (hmark '^' .raised (by decide))

/-- Degrees are squeezed. -/
theorem steady_degree : Steady squeeze Modifier.degree Modifier.degree :=
  (steady_one (by decide)).bind fun _ => steady_upTo (by decide)

/-- Modifiers are read steadily. -/
theorem steady_modifier : Steady Modifier.squeezed Modifier.scanner Modifier.scanner := by
  refine Steady.bind steady_command fun name => ?_
  have hname : ∀ modifier ∈ Modifier.ofCommand? name, modifier.squeezed = modifier := by
    intro modifier hmodifier
    have hdegree := (Modifier.of_ofCommand? hmodifier).2
    cases modifier with
    | root degree => rw [Modifier.squeezed, show degree = none from hdegree]; rfl
    | _ => rfl
  have hend : ∀ modifier : Modifier, Steady Modifier.squeezed (do space; return modifier)
      (do space; return modifier.squeezed) :=
    fun modifier => Steady.bind steady_space fun _ => .pure Modifier.squeezed modifier
  refine (steady_ofOption hname).bind fun modifier => ?_
  cases modifier with
  | root degree =>
    refine Steady.bind (f := Modifier.squeezed) (Steady.orElse ?_ ?_) hend
    · exact Steady.bind steady_degree fun atoms => .pure Modifier.squeezed (.root (some atoms))
    · exact .pure Modifier.squeezed (.root degree)
  | _ => exact (Steady.pure Modifier.squeezed _).bind hend

/-- Operands with a shift are read loosely. -/
theorem loose_scripted :
    Loose (Prod.map id Operand.squeezed) Token.scripted Token.scripted := by
  refine Loose.orElse ?_ ?_
  · exact Steady.bind_loose steady_shift fun shift => Loose.bind_pure loose_operand _ _ fun _ => rfl
  · exact Loose.bind_pure loose_operand _ _ fun _ => rfl

/-- Items are read loosely. -/
theorem loose_item : Loose Token.squeezed Token.itemScanner Token.itemScanner := by
  refine Loose.orElse ?_ ?_
  · exact Steady.bind_loose steady_modifier fun modifier => Loose.bind_pure loose_scripted
      (fun found => Token.item (some modifier) found.1 found.2)
      (fun found => Token.item (some modifier.squeezed) found.1 found.2) fun _ => rfl
  · exact Loose.bind_pure loose_scripted (fun found => Token.item none found.1 found.2)
      (fun found => Token.item none found.1 found.2) fun _ => rfl

/-- Ratios are read loosely. -/
theorem loose_ratio : Loose Token.squeezed Token.ratioScanner Token.ratioScanner := by
  refine Steady.bind_loose steady_command fun name => ?_
  refine (steady_ofOption (f := id) fun _ _ => rfl).bind_loose fun kind => Loose.orElse ?_ ?_
  · refine Steady.bind_loose steady_space fun _ => Loose.bind_space loose_narrow fun upper => ?_
    exact Loose.bind_pure loose_narrow _ _ fun _ => rfl
  · exact (Steady.bind steady_space fun _ => .pure Token.squeezed (.broken _)).loose

/-- The next token of a squeezed sequence is that of the sequence, and what is left is the same up to
white space at its front. -/
theorem loose_token : Loose Token.squeezed Token.scanner Token.scanner := by
  have hblanks : Steady id (skipWhile1 Atom.isBlank) (skipWhile1 Atom.isBlank) :=
    (steady_takeWhile1 Atom.isBlank_squeezed).bind fun _ => .pure id ()
  refine Loose.orElse ?_ (Loose.orElse loose_ratio (Loose.orElse ?_ loose_item))
  · exact (hblanks.bind fun _ => .pure Token.squeezed .blank).loose
  · exact (Steady.bind steady_idiom fun symbol => .pure Token.squeezed (.idiom symbol)).loose

end WikiText.Formula
