import Mathlib.Algebra.GroupWithZero.Nat
import WikiText.Proofs.Formula.Grouping
import WikiText.Proofs.Openers.Passes
import WikiText.Proofs.Scanner

/-!
# Openers of a rendered formula

A rendered formula may be longer than its source, but has no more openers (`openers_render_le`): the
symbol of a command has at most one, and the command begins with a backslash, which is one.

The openers of a sequence of atoms are its weight, a group counting as what it is rendered as. What a
scanner makes of the atoms it reads is paid by their weight (`Paid`); a credit that one step leaves
over is handed on to the next, as the backslash is to the fraction that lacks an operand and is shown
as it was written.
-/

namespace WikiText.Formula

open Scanner
open Unicode (mem_of_lookup)

/-! ## Weight -/

namespace Atom

/-- The openers of an atom: of its character, or of what the group is rendered as. -/
def weight : Atom → Nat
  | char c => openers [c]
  | group _ rendered => openers rendered

end Atom

/-- The openers of a sequence of atoms. -/
def weight (atoms : List Atom) : Nat :=
  (atoms.map Atom.weight).sum

@[simp]
theorem weight_nil : weight [] = 0 :=
  rfl

@[simp]
theorem weight_cons (atom : Atom) (atoms : List Atom) :
    weight (atom :: atoms) = atom.weight + weight atoms :=
  List.sum_cons

@[simp]
theorem weight_append (atoms rest : List Atom) :
    weight (atoms ++ rest) = weight atoms + weight rest := by
  simp [weight]

@[simp]
theorem weight_reverse (atoms : List Atom) : weight atoms.reverse = weight atoms := by
  simp [weight]

/-- What is left of a sequence weighs no more. -/
theorem weight_le_of_suffix {rest atoms : List Atom} (h : rest <:+ atoms) :
    weight rest ≤ weight atoms := by
  obtain ⟨front, rfl⟩ := h
  rw [weight_append]
  exact Nat.le_add_left _ _

/-- The atoms of a text weigh as many openers as it has. -/
theorem weight_ofText (text : Text) : weight (Atom.ofText text) = openers text := by
  induction text with
  | nil => rfl
  | cons c rest ih =>
    rw [Atom.ofText_cons, weight_cons, ih, openers_cons_eq c rest]
    rfl

/-- The source of a run of characters has the openers of the run. -/
theorem openers_sourceOf {p : Char → Bool} {atoms : List Atom}
    (h : ∀ atom ∈ atoms, atom.isCharOf p = true) : openers (Atom.sourceOf atoms) = weight atoms := by
  induction atoms with
  | nil => rfl
  | cons atom atoms ih =>
    have hatom := h atom List.mem_cons_self
    rw [Atom.sourceOf_cons, openers_append, weight_cons,
      ih fun other hother => h other (List.mem_cons_of_mem atom hother)]
    cases atom with
    | char c => rfl
    | group source rendered => cases hatom

/-! ## Payment -/

/-- What a scanner reads costs no more than the weight of the atoms that it takes and a credit. -/
def Paid {α : Type} (credit : Nat) (scanner : Scanner Atom α) (cost : α → Nat) : Prop :=
  ∀ atoms value rest, scanner.run atoms = some (value, rest) →
    cost value + weight rest ≤ credit + weight atoms

namespace Paid

variable {α β : Type} {credit : Nat} {scanner : Scanner Atom α} {cost : α → Nat}

/-- What costs no more than the credit is paid. -/
theorem of_le (h : ∀ value, cost value ≤ credit) : Paid credit scanner cost := by
  intro atoms value rest hrun
  have hrest := weight_le_of_suffix (scanner.suffix hrun)
  have hvalue := h value
  omega

theorem pure {value : α} (h : cost value ≤ credit) :
    Paid credit (Pure.pure value : Scanner Atom α) cost := by
  intro atoms _ rest hrun
  cases hrun
  omega

/-- The next scanner is paid by what is left over. -/
theorem bind {next : α → Scanner Atom β} {cost' : β → Nat} (h : Paid credit scanner cost)
    (hnext : ∀ value, Paid (cost value) (next value) cost') :
    Paid credit (scanner >>= next) cost' := by
  intro atoms value rest hrun
  obtain ⟨first, middle, hfirst, hsecond⟩ := exists_of_bind hrun
  have hpaid := h atoms first middle hfirst
  have hrest := hnext first middle value rest hsecond
  omega

theorem orElse {first second : Scanner Atom α} (h : Paid credit first cost)
    (h' : Paid credit second cost) : Paid credit (first <|> second) cost := by
  intro atoms value rest hrun
  rcases exists_of_orElse hrun with hfirst | hsecond
  · exact h atoms value rest hfirst
  · exact h' atoms value rest hsecond

/-- Each of a list of scanners that are paid is paid. -/
theorem firstOf {scanners : List (Scanner Atom α)}
    (h : ∀ scanner ∈ scanners, Paid credit scanner cost) :
    Paid credit (Scanner.firstOf scanners) cost := by
  induction scanners with
  | nil =>
    intro atoms value rest hrun
    cases hrun
  | cons scanner others ih =>
    exact (h scanner List.mem_cons_self).orElse
      (ih fun other hother => h other (List.mem_cons_of_mem scanner hother))

/-- A value that may be missing is paid, if it costs no more than the credit. -/
theorem ofOption {value : Option α} (h : ∀ a ∈ value, cost a ≤ credit) :
    Paid credit (Scanner.ofOption value) cost := by
  intro atoms a rest hrun
  obtain ⟨_, hvalue, hpair⟩ := Option.map_eq_some_iff.mp hrun
  cases hpair
  have hcost := h a hvalue
  omega

/-- A credit that is not needed may be kept for what follows. -/
theorem frame (h : Paid 0 scanner cost) (credit : Nat) :
    Paid credit scanner fun value => credit + cost value := by
  intro atoms value rest hrun
  have hpaid := h atoms value rest hrun
  show credit + cost value + weight rest ≤ credit + weight atoms
  omega

/-- The credit is kept over what any scanner takes. -/
theorem keep (scanner : Scanner Atom α) (credit : Nat) : Paid credit scanner fun _ => credit :=
  of_le fun _ => Nat.le_refl _

end Paid

/-- An atom costs its weight. -/
theorem paid_satisfy (p : Atom → Bool) : Paid 0 (satisfy p) Atom.weight := by
  intro atoms atom rest hrun
  obtain ⟨-, rfl⟩ := run_satisfy_eq_some.mp hrun
  rw [weight_cons, Nat.zero_add]

/-- A given character costs its openers. -/
theorem paid_one (c : Char) : Paid 0 (one (.char c)) fun _ => openers [c] := by
  intro atoms _ rest hrun
  obtain ⟨atom, middle, hfirst, hpure⟩ := exists_of_bind hrun
  obtain ⟨hatom, rfl⟩ := run_satisfy_eq_some.mp hfirst
  cases hpure
  rw [eq_of_beq hatom, weight_cons, Nat.zero_add]
  exact Nat.le_refl _

/-- A run of characters costs its openers. -/
theorem paid_takeWhile1 (p : Char → Bool) :
    Paid 0 (takeWhile1 (Atom.isCharOf p)) fun run => openers (Atom.sourceOf run) := by
  intro atoms run rest hrun
  obtain ⟨first, middle, hfirst, hmore⟩ := exists_of_bind hrun
  obtain ⟨hp, rfl⟩ := run_satisfy_eq_some.mp hfirst
  cases hmore
  have hall : ∀ atom ∈ first :: middle.takeWhile (Atom.isCharOf p), atom.isCharOf p = true := by
    intro atom hatom
    rcases List.mem_cons.mp hatom with rfl | hatom
    · exact hp
    · exact List.mem_takeWhile_imp hatom
  have hsplit : weight (middle.takeWhile (Atom.isCharOf p))
      + weight (middle.dropWhile (Atom.isCharOf p)) = weight middle := by
    rw [← weight_append, List.takeWhile_append_dropWhile]
  have hread := openers_sourceOf hall
  rw [weight_cons] at hread ⊢
  show openers (Atom.sourceOf _) + _ ≤ _
  omega

/-- What is read up to a closing atom costs its weight. -/
theorem paid_upTo (close : Scanner Atom Unit) : Paid 0 (upTo close) weight := by
  intro atoms content rest hrun
  obtain ⟨_, place, rfl, hclose⟩ := exists_of_upToRun hrun
  have hrest := weight_le_of_suffix (close.suffix hclose)
  rw [weight_append]
  omega

/-! ## Alphabets -/

/-- A letter of an alphabet is no opener. -/
theorem openers_apply_le (alphabet : Alphabet) (text : Text) :
    openers (alphabet.apply text) ≤ openers text := by
  induction text with
  | nil => exact Nat.le_refl _
  | cons c rest ih =>
    have hfirst : isOpener ((alphabet.letters.lookup c).getD c) = true → isOpener c = true := by
      cases hlookup : alphabet.letters.lookup c with
      | none => exact id
      | some letter =>
        intro hopener
        rw [Option.getD_some, isOpener_letter hlookup] at hopener
        cases hopener
    rw [Alphabet.apply, List.map_cons, openers_cons, openers_cons]
    refine Nat.add_le_add ih ?_
    split
    · next hopener => rw [if_pos (hfirst hopener)]
    · exact Nat.zero_le _

/-! ## Operands -/

/-- A command costs the openers of its source. -/
theorem paid_command : Paid 0 command fun name => openers ('\\' :: name) := by
  refine (paid_one '\\').bind fun _ => ?_
  refine ((paid_takeWhile1 Char.isAlpha).frame _).bind fun run => .pure ?_
  exact Nat.le_of_eq (openers_cons_eq '\\' _)

/-- A spelling that begins with a backslash is read off atoms that begin with one. -/
theorem paid_spell (text : Text) : Paid 0 (spell ('\\' :: text)) fun _ => 1 := by
  intro atoms _ rest hrun
  cases atoms with
  | nil => cases hrun
  | cons atom tail =>
    cases atom with
    | char c =>
      simp only [spell, spellRun] at hrun
      split at hrun
      · next hc =>
        have hrest := weight_le_of_suffix (spellRun_suffix hrun)
        have hbackslash : (Atom.char c).weight = 1 := by rw [← hc]; rfl
        show 1 + weight rest ≤ 0 + weight (.char c :: tail)
        rw [weight_cons, hbackslash]
        omega
      · cases hrun
    | group source rendered => cases hrun

/-- An idiom costs the openers of its symbol. -/
theorem paid_idiom : Paid 0 idiom openers := by
  -- an idiom spends its backslash on its symbol; the blanks that may follow it are free
  have hfirst : ∀ spelling ∈ idioms, spelling.toList.head? = some '\\' := by decide
  refine .firstOf fun scanner hscanner => ?_
  obtain ⟨spelling, hspelling, rfl⟩ := List.mem_map.mp hscanner
  obtain ⟨text, htext⟩ := List.head?_eq_some_iff.mp (hfirst spelling hspelling)
  have hspell : Paid 0 (spell spelling.toList) fun _ => 1 := htext ▸ paid_spell text
  have hsymbol : Paid 1 (ofOption (symbol? (spelling.toList.drop 1))) openers :=
    .ofOption fun symbol h => openers_symbol_le h
  refine hspell.bind fun _ => ?_
  dsimp only
  split
  · exact (Paid.keep _ 1).bind fun _ => hsymbol
  · exact hsymbol

namespace Operand

/-- A single atom costs what is shown of it. -/
theorem paid_single : Paid 0 single fun operand => openers operand.render := by
  refine (paid_satisfy _).bind fun atom => ?_
  cases atom with
  | char c =>
    refine .pure ?_
    show openers (Operand.char c).render ≤ openers [c]
    rw [render]
    split
    · exact Nat.zero_le _
    · exact Nat.le_refl _
  | group source rendered => exact .pure (Nat.le_refl _)

/-- What follows a backslash costs what is shown of it. -/
theorem paid_afterBackslash : Paid 0 afterBackslash fun operand => openers operand.render := by
  refine (paid_one '\\').bind fun _ => ((paid_satisfy _).frame _).bind fun atom => ?_
  have hbackslash : openers ['\\'] = 1 := rfl
  cases atom with
  | char c =>
    refine .pure ?_
    show openers (escaped c).render ≤ openers ['\\'] + openers [c]
    rw [render]
    -- a symbol has at most one opener, and the backslash pays for it
    cases hsymbol : symbol? [c] with
    | some symbol =>
      have hone := openers_symbol_le hsymbol
      rw [Option.getD_some]
      omega
    | none =>
      rw [Option.getD_none]
      split
      · have hspaced : openers ([' '] ++ [c] ++ [' ']) = openers [c] := by
          rw [openers_append, openers_append, show openers [' '] = 0 from rfl]
          omega
        exact hspaced.le.trans (Nat.le_add_left _ _)
      · omega
  | group source rendered => exact .pure (Nat.le_add_left _ _)

/-- A word costs what is shown of it. -/
theorem paid_wordRun : Paid 0 wordRun fun operand => openers operand.render :=
  (paid_takeWhile1 Unicode.isAlphanumeric).bind fun _ => .pure (Nat.le_refl _)

/-- Of a command no more openers are shown than its source has. -/
theorem openers_command_le (name : Text) :
    openers (Operand.command name).render ≤ openers ('\\' :: name) := by
  rw [render, openers_cons_of_isOpener rfl]
  cases hsymbol : symbol? name with
  | some symbol =>
    have hone := openers_symbol_le hsymbol
    rw [Option.getD_some]
    omega
  | none =>
    rw [Option.getD_none, List.cons_append, openers_cons_of_not rfl, openers_append,
      openers_cons_of_not rfl, openers_nil]
    omega

/-- An operand costs what is shown of it. -/
theorem paid_scanner : Paid 0 Operand.scanner fun operand => openers operand.render := by
  refine .orElse ?_ (.orElse paid_afterBackslash (.orElse paid_wordRun paid_single))
  exact Paid.bind paid_command fun name =>
    (Paid.keep _ _).bind fun _ => .pure (openers_command_le name)

/-- The operand of a script costs what is shown of it. -/
theorem paid_narrowScanner :
    Paid 0 narrowScanner fun operand => openers operand.render := by
  refine .orElse ?_ (.orElse ?_ (.orElse paid_afterBackslash paid_single))
  · exact Paid.bind paid_idiom fun _ => .pure (Nat.le_refl _)
  · exact Paid.bind paid_command fun name => .pure (openers_command_le name)

end Operand

/-! ## Tokens -/

/-- The weight of the degree that a modifier holds. -/
def Modifier.cost : Modifier → Nat
  | root (some degree) => weight degree
  | _ => 0

/-- A modifier that is a command costs nothing. -/
theorem Modifier.cost_of_ofCommand {name : Text} {modifier : Modifier}
    (h : ofCommand? name = some modifier) : modifier.cost = 0 := by
  rw [ofCommand?, Option.or_eq_some_iff] at h
  rcases h with hlookup | ⟨-, halphabet⟩
  · have hmem := mem_of_lookup hlookup
    simp only [List.mem_cons, Prod.mk.injEq, List.not_mem_nil, or_false] at hmem
    rcases hmem with ⟨-, rfl⟩ | ⟨-, rfl⟩ | ⟨-, rfl⟩ | ⟨-, rfl⟩ | ⟨-, rfl⟩ <;> rfl
  · obtain ⟨alphabet, -, rfl⟩ := Option.map_eq_some_iff.mp halphabet
    rfl

/-- A degree costs its weight. -/
theorem Modifier.paid_degree : Paid 0 degree weight :=
  (Paid.keep _ 0).bind fun _ => paid_upTo _

/-- A modifier costs the weight of its degree. -/
theorem Modifier.paid_scanner : Paid 0 Modifier.scanner Modifier.cost := by
  have hcommand (name : Text) : Paid 0 (ofOption (ofCommand? name)) cost :=
    .ofOption fun modifier h => Nat.le_of_eq (cost_of_ofCommand h)
  have hspace (modifier : Modifier) : Paid modifier.cost (do space; return modifier) cost :=
    (Paid.keep _ _).bind fun _ => .pure (Nat.le_refl _)
  refine (Paid.keep _ 0).bind fun name => (hcommand name).bind fun modifier => ?_
  dsimp only
  split
  · refine Paid.bind (.orElse ?_ ?_) hspace
    · refine (Paid.frame paid_degree _).bind fun _ => .pure ?_
      exact Nat.le_add_left _ _
    · exact .pure (Nat.le_refl _)
  · exact Paid.bind (.pure (Nat.le_refl _)) hspace

namespace Token

/-- The openers of the texts and the atoms that a token holds. -/
def cost : Token → Nat
  | blank => 0
  | ratio _ upper lower => openers upper.render + openers lower.render
  | broken source => openers source
  | idiom symbol => openers symbol
  | item none _ operand => openers operand.render
  | item (some modifier) _ operand => modifier.cost + openers operand.render

/-- An operand with a shift costs what is shown of the operand. -/
theorem paid_scripted : Paid 0 scripted fun found => openers found.2.render := by
  refine .orElse ?_ ?_
  · refine Paid.bind (Paid.keep _ 0) fun _ => Paid.bind Operand.paid_scanner fun _ => ?_
    exact .pure (Nat.le_refl _)
  · exact Paid.bind Operand.paid_scanner fun _ => .pure (Nat.le_refl _)

/-- An item costs the openers of what it holds. -/
theorem paid_itemScanner : Paid 0 itemScanner cost := by
  refine .orElse ?_ ?_
  · refine Paid.bind Modifier.paid_scanner fun modifier => ?_
    exact (Paid.frame paid_scripted modifier.cost).bind fun _ => .pure (Nat.le_refl _)
  · exact Paid.bind paid_scripted fun _ => .pure (Nat.le_refl _)

/-- A ratio costs the openers of what it holds. -/
theorem paid_ratioScanner : Paid 0 ratioScanner cost := by
  refine Paid.bind paid_command fun name => (Paid.keep _ _).bind fun kind => .orElse ?_ ?_
  -- a fraction has no use for the credit of its command; one that is broken spends all of it
  · refine Paid.bind (.of_le fun _ => Nat.zero_le _) fun _ => Paid.bind Operand.paid_narrowScanner ?_
    refine fun upper => (Paid.keep _ _).bind fun _ => ?_
    exact (Paid.frame Operand.paid_narrowScanner _).bind fun lower => .pure (Nat.le_refl _)
  · exact (Paid.keep _ _).bind fun _ => .pure (Nat.le_refl _)

/-- A token costs the openers of what it holds. -/
theorem paid_scanner : Paid 0 Token.scanner cost := by
  refine .orElse ?_ (.orElse paid_ratioScanner (.orElse ?_ paid_itemScanner))
  · exact (Paid.keep _ 0).bind fun _ => .pure (Nat.le_refl _)
  · exact Paid.bind paid_idiom fun _ => .pure (Nat.le_refl _)

/-- The tokens of a sequence cost no more than its atoms. -/
theorem sum_cost_all_le (atoms : List Atom) : ((all atoms).map cost).sum ≤ weight atoms := by
  fun_induction all atoms with
  | case1 atoms token rest hrun ih =>
    have hpaid := paid_scanner atoms token rest hrun
    rw [List.map_cons, List.sum_cons]
    omega
  | case2 => exact Nat.zero_le _

end Token

/-! ## Texts of tokens -/

/-- Parentheses add no openers. -/
theorem openers_parenthesize_le (text : Text) : openers (parenthesize text) ≤ openers text := by
  rw [parenthesize]
  split
  · rw [List.cons_append, openers_cons_of_not rfl, openers_append]
    exact Nat.le_of_eq (Nat.add_zero _)
  · exact Nat.le_refl _

/-- Raised and lowered forms have no more openers than the operand. -/
theorem openers_shifted_le (shift : Option Shift) (operand : Operand) :
    openers (shifted shift operand) ≤ openers operand.render := by
  cases shift with
  | none => exact Nat.le_refl _
  | some shift =>
    cases shift with
    | lowered => exact Script.openers_toSubscript_le _
    | raised => exact Script.openers_toSuperscript_le _

/-- The mark of a script is no opener. -/
theorem openers_marked (shift : Option Shift) (operand : Operand) :
    openers (marked shift operand) = openers operand.render := by
  have hmark : openers (shift.map Shift.mark).toList = 0 := by
    cases shift with
    | none => rfl
    | some shift => cases shift <;> rfl
  rw [marked, openers_append, hmark, Nat.zero_add]

/-- The sign of a root is no opener. -/
theorem openers_radical_le (degree : Text) : openers (radical degree) ≤ openers degree := by
  have hsign (sign : Char) (h : isOpener sign = false) : openers [sign] ≤ openers degree := by
    rw [openers_cons_of_not h]
    exact Nat.zero_le _
  unfold radical
  split
  · exact hsign '√' rfl
  · split
    · exact hsign '∛' rfl
    · split
      · exact hsign '∜' rfl
      · rw [openers_append]
        exact Script.openers_toSuperscript_le degree

section

variable {renderDegree : List Atom → Traced Diagnostic Text}
  (h : ∀ degree, openers (renderDegree degree).value ≤ weight degree)

include h

/-- A modified operand has no more openers than its parts. -/
theorem openers_modifier_le (shift : Option Shift) (operand : Operand) (modifier : Modifier) :
    openers (modifier.render renderDegree shift operand).value
      ≤ modifier.cost + openers operand.render := by
  have hshifted := (openers_trim_le (shifted shift operand)).trans (openers_shifted_le shift operand)
  have hmarked := openers_marked shift operand
  -- only the degree of a root is rendered by itself; other modifiers show the operand and signs
  cases modifier with
  | «alphabet» letters =>
    have happly := (openers_apply_le letters (marked shift operand).trim).trans (openers_trim_le _)
    exact (happly.trans hmarked.le).trans (Nat.le_add_left _ _)
  | text => exact hmarked.le.trans (Nat.le_add_left _ _)
  | environment => exact Nat.zero_le _
  | modulus =>
    show openers ("(mod ".toList ++ (shifted shift operand).trim ++ [')']) ≤ 0 + _
    have hname : openers "(mod ".toList = 0 := by decide
    have hclose : openers [')'] = 0 := rfl
    rw [openers_append, openers_append]
    omega
  | root degree =>
    have hoperand := (openers_parenthesize_le (shifted shift operand).trim).trans hshifted
    cases degree with
    | none =>
      show openers (radical [] ++ _) ≤ _
      have hsign := openers_radical_le []
      rw [openers_append]
      exact Nat.add_le_add hsign hoperand
    | some degree =>
      show openers (radical (renderDegree degree).value.trim ++ _) ≤ _
      have hdegree := (openers_radical_le _).trans ((openers_trim_le _).trans (h degree))
      rw [openers_append]
      exact Nat.add_le_add hdegree hoperand

/-- Of a token no more openers are shown than it costs. -/
theorem openers_token_le (token : Token) :
    openers (token.render renderDegree).value ≤ token.cost := by
  cases token with
  | blank => exact Nat.le_refl _
  | ratio kind upper lower =>
    have hpart (operand : Operand) :
        openers (parenthesize operand.render.trim) ≤ openers operand.render :=
      (openers_parenthesize_le _).trans (openers_trim_le _)
    have hupper := hpart upper
    have hlower := hpart lower
    cases kind with
    | fraction =>
      show openers (_ ++ '/' :: _) ≤ openers upper.render + openers lower.render
      rw [openers_append, openers_cons_of_not rfl]
      omega
    | binomial =>
      show openers ("binom(".toList ++ _ ++ ", ".toList ++ _ ++ [')'])
        ≤ openers upper.render + openers lower.render
      have hname : openers "binom(".toList = 0 := by decide
      have hcomma : openers ", ".toList = 0 := by decide
      have hclose : openers [')'] = 0 := rfl
      rw [openers_append, openers_append, openers_append, openers_append]
      omega
  | broken source => exact Nat.le_refl _
  | idiom symbol => exact Nat.le_refl _
  | item modifier shift operand =>
    cases modifier with
    | none => exact openers_shifted_le shift operand
    | some modifier => exact openers_modifier_le h shift operand modifier

end

/-- Joining texts puts spaces between them. -/
theorem openers_joinParts (last : Option Char) (parts : List Text) :
    openers (joinParts last parts) = openers parts.flatten := by
  fun_induction joinParts last parts with
  | case1 => rfl
  | case2 last rest ih => exact ih
  | case3 last c part rest joined _ ih =>
    have hjoined : openers (c :: part ++ joinParts (c :: part).getLast? rest)
        = openers ((c :: part) :: rest).flatten := by
      rw [openers_append, ih, List.flatten_cons, openers_append]
    rw [openers_cons_of_not rfl]
    exact hjoined
  | case4 last c part rest joined _ ih =>
    show openers (c :: part ++ joinParts (c :: part).getLast? rest) = _
    rw [openers_append, ih, List.flatten_cons, openers_append]

/-! ## Formulas -/

/-- Of a sequence no more openers are shown than it weighs, at any depth. -/
theorem openers_renderFlatUpTo_le (depth : Nat) (atoms : List Atom) :
    openers (renderFlatUpTo depth atoms).value ≤ weight atoms := by
  induction depth generalizing atoms with
  | zero => exact Nat.zero_le _
  | succ depth ih =>
    have htokens : ∀ tokens : List Token,
        openers (tokens.map fun token => (token.render (renderFlatUpTo depth)).value).flatten
          ≤ (tokens.map Token.cost).sum := by
      intro tokens
      induction tokens with
      | nil => exact Nat.le_refl _
      | cons token tokens htail =>
        rw [List.map_cons, List.flatten_cons, openers_append, List.map_cons, List.sum_cons]
        exact Nat.add_le_add (openers_token_le ih token) htail
    rw [renderFlatUpTo, Traced.value_bind, Traced.value_traverse, Traced.value_pure,
      openers_joinParts]
    exact (htokens _).trans (Token.sum_cost_all_le atoms)

/-- The text of a sequence has no more openers than it weighs. -/
theorem openers_flatText_le (atoms : List Atom) : openers (flatText atoms) ≤ weight atoms :=
  openers_renderFlatUpTo_le _ atoms

/-- The weight of what a segment becomes when it is a group. -/
def Segment.weight : Segment → Nat
  | loose atom => atom.weight
  | braced content => Formula.weight content

/-- A loose segment weighs as much as its atom. -/
theorem sum_weight_loose (atom : Atom) (parts : List Segment) :
    ((Segment.loose atom :: parts).map Segment.weight).sum
      = atom.weight + (parts.map Segment.weight).sum :=
  List.sum_cons

/-- A brace that stays open weighs as much as what is held behind it. -/
theorem sum_weight_unopened (held : Option (List Atom)) :
    ((Segment.unopened held).map Segment.weight).sum = weight (heldAtoms held) := by
  cases held with
  | none => rfl
  | some held =>
    have hloose : Segment.weight ∘ Segment.loose = Atom.weight := rfl
    rw [Segment.unopened, List.map_cons, List.sum_cons, List.map_map, hloose]
    rfl

/-- Cutting a formula into segments drops braces only. -/
theorem sum_weight_segmentsFrom (held : Option (List Atom)) (atoms : List Atom) :
    ((segmentsFrom held atoms).map Segment.weight).sum = weight (heldAtoms held) + weight atoms := by
  fun_induction segmentsFrom held atoms with
  | case1 held => rw [sum_weight_unopened, weight_nil, Nat.add_zero]
  | case2 held rest ih =>
    rw [List.map_append, List.sum_append, sum_weight_unopened, ih, weight_cons]
    rfl
  | case3 rest last others ih =>
    -- the content is held in reverse, and its braces weigh nothing
    have hopen : (Atom.char '{').weight = 0 := rfl
    have hclose : (Atom.char '}').weight = 0 := rfl
    have hbraced : (Segment.braced (last :: others).reverse).weight = weight (last :: others) :=
      weight_reverse _
    have hheld : weight (heldAtoms (some (last :: others))) = weight (last :: others) := by
      rw [heldAtoms, weight_cons, weight_reverse, hopen, Nat.zero_add]
    rw [List.map_cons, List.sum_cons, ih, hbraced, hheld, weight_cons _ rest, hclose]
    rfl
  | case4 held rest _ ih =>
    rw [List.map_append, List.sum_append, sum_weight_unopened, sum_weight_loose, ih, weight_cons,
      show weight (heldAtoms none) = 0 from rfl, Nat.zero_add]
  | case5 atom rest _ _ others ih =>
    rw [ih, heldAtoms, heldAtoms, List.reverse_cons, weight_cons, weight_cons, weight_cons,
      weight_append, weight_cons, weight_nil]
    omega
  | case6 atom rest _ _ ih =>
    rw [sum_weight_loose, ih, weight_cons, show weight (heldAtoms none) = 0 from rfl]
    omega

/-- A group weighs no more than the segment that it is made of. -/
theorem weight_become_le (segment : Segment) :
    (segment.become flatText).weight ≤ segment.weight := by
  cases segment with
  | loose atom => exact Nat.le_refl _
  | braced content =>
    exact (openers_trim_le _).trans (openers_flatText_le content)

/-- Passes over the braces of a formula do not add weight. -/
theorem weight_flatten_le (atoms : List Atom) :
    weight (flatten renderFlat atoms).value ≤ weight atoms := by
  fun_induction flatten renderFlat atoms with
  | case1 atoms parts _ pass flat ih =>
    have hsegments := sum_weight_segmentsFrom none atoms
    have hbecome : ∀ parts : List Segment,
        weight (parts.map (Segment.become flatText)) ≤ (parts.map Segment.weight).sum := by
      intro parts
      induction parts with
      | nil => exact Nat.le_refl _
      | cons part parts htail =>
        rw [List.map_cons, weight_cons, List.map_cons, List.sum_cons]
        exact Nat.add_le_add (weight_become_le part) htail
    have hpass : pass.value = parts.map (Segment.become flatText) :=
      value_collapse (fun _ => rfl) parts
    -- a pass makes no part heavier, and the parts together weigh what the atoms weigh
    calc weight flat.value
        ≤ weight (parts.map (Segment.become flatText)) := hpass ▸ ih
      _ ≤ (parts.map Segment.weight).sum := hbecome parts
      _ = weight atoms := hsegments.trans (Nat.zero_add _)
  | case2 => exact Nat.le_refl _

/-- **A rendered formula has no more openers than its source.** -/
theorem openers_render_le (formula : Text) :
    openers (render formula).value ≤ openers formula := by
  rw [value_render]
  calc openers (flatText (flatten renderFlat (Atom.ofText formula)).value)
      ≤ weight (flatten renderFlat (Atom.ofText formula)).value := openers_flatText_le _
    _ ≤ weight (Atom.ofText formula) := weight_flatten_le _
    _ = openers formula := weight_ofText formula

end WikiText.Formula
