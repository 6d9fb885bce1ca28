import WikiText.Proofs.Formula.Grouping
import WikiText.Proofs.Scanner
import WikiText.Proofs.Unicode.Tables

/-!
# How tokens are read

What a token is read from, by the alternative that accepts. A command for a ratio at the front of a
sequence is never left to the later alternatives (`token_cases`), and the degree of a root stands
between brackets of the sequence that the root is read from (`exists_of_inner`). Every atom belongs to
a token (`run_token_ne_none`).
-/

namespace WikiText.Formula

open Scanner

variable {input rest behind : List Atom} {token : Token} {name : Text} {kind : Ratio}

/-! ## Commands and idioms -/

/-- A command begins with a backslash. -/
theorem run_command_of_ne {atom : Atom} (h : atom ≠ .char '\\') (rest : List Atom) :
    command.run (atom :: rest) = none := by
  rw [command, run_bind, run_one_of_ne h]
  rfl

/-- The name of a command is the run of letters behind its backslash, if there is one. -/
theorem run_command_cons (rest : List Atom) :
    command.run (.char '\\' :: rest) =
      if rest.takeWhile Atom.isLetter = [] then none
      else some (Atom.sourceOf (rest.takeWhile Atom.isLetter), rest.dropWhile Atom.isLetter) := by
  have hname : command.run (.char '\\' :: rest)
      = ((takeWhile1 Atom.isLetter).run rest).bind fun found =>
          some (Atom.sourceOf found.1, found.2) := by
    rw [command, run_bind, run_one_self]
    rfl
  rw [hname, run_takeWhile1]
  split <;> rfl

/-- If what comes behind a command takes anything, only the command itself can be missing. -/
theorem run_command_of_refused {α : Type} {next : Text → Scanner Atom α}
    (hnext : ∀ name rest, (next name).run rest ≠ none)
    (h : (command >>= next).run input = none) : command.run input = none := by
  rw [run_bind] at h
  cases hrun : command.run input with
  | none => rfl
  | some found =>
    rw [hrun] at h
    exact absurd h (hnext found.1 found.2)

/-- What an idiom is spelled by: the atoms in front, whose source it is. -/
theorem exists_of_spellRun {text : Text} {atoms rest : List Atom} {u : Unit}
    (h : spellRun text atoms = some (u, rest)) :
    ∃ block, atoms = block ++ rest ∧ Atom.sourceOf block = text := by
  fun_induction spellRun text atoms with
  | case1 atoms =>
    cases h
    exact ⟨[], rfl, rfl⟩
  | case2 => cases h
  | case3 text d atoms ih =>
    obtain ⟨block, rfl, hblock⟩ := ih h
    exact ⟨.char d :: block, rfl, by rw [Atom.sourceOf_cons, hblock]; rfl⟩
  | case4 => cases h
  | case5 c text source rendered atoms spelled hspelled ih =>
    obtain ⟨block, rfl, hblock⟩ := ih h
    refine ⟨.group source rendered :: block, rfl, ?_⟩
    -- a group takes the whole of its source from the front of the text
    have hsource : (Atom.group source rendered).source = spelled := rfl
    rw [Atom.sourceOf_cons, hblock, hsource]
    obtain ⟨more, hmore⟩ := List.isPrefixOf_iff_prefix.mp hspelled
    rw [← hmore, List.drop_left]
  | case6 => cases h

/-- An idiom takes the atoms that spell it, and no letter follows one that ends in a letter. -/
theorem exists_of_idiomOf {spelling : String} {symbol : Text}
    (h : (idiomOf spelling).run input = some (symbol, rest)) :
    ∃ block, input = block ++ rest ∧ Atom.sourceOf block = spelling.toList ∧
      (spelling.toList.getLast?.any Char.isAlpha = true → rest.head?.any Atom.isLetter = false) := by
  obtain ⟨_, middle, hspell, hnext⟩ := exists_of_bind h
  obtain ⟨block, rfl, hblock⟩ := exists_of_spellRun hspell
  -- only behind a spelling that ends in a letter is the next atom looked at
  split at hnext
  · next hletter =>
    obtain ⟨_, behind, hbefore, hsymbol⟩ := exists_of_bind hnext
    obtain ⟨_, -, heq⟩ := Option.map_eq_some_iff.mp hsymbol
    cases heq
    simp only [notBefore] at hbefore
    split at hbefore
    · cases hbefore
    · next hhead =>
      cases hbefore
      exact ⟨block, rfl, hblock, fun _ => eq_false_of_ne_true hhead⟩
  · next hletter =>
    obtain ⟨_, -, heq⟩ := Option.map_eq_some_iff.mp hnext
    cases heq
    exact ⟨block, rfl, hblock, fun h => absurd h hletter⟩

/-- Idioms begin with a backslash. -/
theorem run_idiom_of_ne {atom : Atom} (h : atom ≠ .char '\\') (rest : List Atom) :
    idiom.run (atom :: rest) = none := by
  have hspelled : ∀ spelling ∈ idioms, spelling.toList.head? = some '\\' := by decide
  rw [idiom]
  apply run_firstOf_eq_none
  intro scanner hscanner
  obtain ⟨spelling, hlisted, rfl⟩ := List.mem_map.mp hscanner
  rw [Option.eq_none_iff_forall_ne_some]
  rintro ⟨symbol, left⟩ hrun
  obtain ⟨block, hblock, hsource, -⟩ := exists_of_idiomOf hrun
  have hfirst := hspelled spelling hlisted
  rw [← hsource] at hfirst
  cases block with
  | nil => cases hfirst
  | cons first block =>
    obtain ⟨rfl, -⟩ := List.cons_eq_cons.mp hblock
    cases atom with
    | char c => exact h (congrArg Atom.char (Option.some.inj hfirst))
    | group source rendered => cases hfirst

/-! ## Commands that take operands -/

/-- The names of the commands for ratios. -/
def ratioNames : List Text :=
  ["frac".toList, "dfrac".toList, "tfrac".toList, "binom".toList]

/-- The name of a ratio is in the list of them. -/
theorem mem_ratioNames (h : Ratio.ofCommand? name = some kind) :
    name ∈ ratioNames := by
  have hentry := Unicode.mem_of_lookup h
  have hname : name = (String.ofList name).toList := String.toList_ofList.symm
  rw [hname]
  simp only [List.mem_cons, Prod.mk.injEq, List.not_mem_nil, or_false] at hentry
  rcases hentry with ⟨heq, -⟩ | ⟨heq, -⟩ | ⟨heq, -⟩ | ⟨heq, -⟩ <;> rw [heq] <;> decide

/-- The degree of a modifier, if it is a root that has one. -/
def Modifier.degree? : Modifier → Option (List Atom)
  | root degree => degree
  | _ => none

/-- The degree of the root that a token is, if it is one that has one. -/
def Token.degree? : Token → Option (List Atom)
  | item (some modifier) _ _ => modifier.degree?
  | _ => none

/-- The sequence that is rendered by itself for a modifier: the degree of a root. -/
def Modifier.inner : Modifier → List Atom
  | root (some atoms) => atoms
  | _ => []

/-- The sequence that is rendered by itself for a token. -/
def Token.inner : Token → List Atom
  | item (some modifier) _ _ => modifier.inner
  | _ => []

/-- The atoms within a modifier are those of its degree. -/
theorem Modifier.inner_eq (modifier : Modifier) : modifier.inner = modifier.degree?.getD [] := by
  cases modifier with
  | root degree => cases degree <;> rfl
  | _ => rfl

/-- The atoms within a token are those of its degree. -/
theorem Token.inner_eq (token : Token) : token.inner = token.degree?.getD [] := by
  cases token with
  | item modifier shift operand =>
    cases modifier with
    | none => rfl
    | some modifier => exact modifier.inner_eq
  | _ => rfl

/-- No modifier is a command for a ratio, and none has a degree by its name. -/
theorem Modifier.of_ofCommand? {modifier : Modifier} (h : ofCommand? name = some modifier) :
    Ratio.ofCommand? name = none ∧ modifier.degree? = none := by
  have hratios : ∀ name ∈ ratioNames, ofCommand? name = none := by decide
  constructor
  · cases hkind : Ratio.ofCommand? name with
    | none => rfl
    | some kind =>
      rw [hratios name (mem_ratioNames hkind)] at h
      cases h
  · rw [ofCommand?, Option.or_eq_some_iff] at h
    rcases h with hlookup | ⟨-, halphabet⟩
    · have hmem := Unicode.mem_of_lookup hlookup
      simp only [List.mem_cons, Prod.mk.injEq, List.not_mem_nil, or_false] at hmem
      rcases hmem with ⟨-, rfl⟩ | ⟨-, rfl⟩ | ⟨-, rfl⟩ | ⟨-, rfl⟩ | ⟨-, rfl⟩ <;> rfl
    · obtain ⟨alphabet, -, rfl⟩ := Option.map_eq_some_iff.mp halphabet
      rfl

/-- A degree is what stands between square brackets, up to the first closing one. -/
theorem exists_of_degree {atoms : List Atom}
    (h : Modifier.degree.run input = some (atoms, rest)) :
    input = .char '[' :: (atoms ++ .char ']' :: rest) ∧ .char ']' ∉ atoms := by
  obtain ⟨_, behind, hopen, hclose⟩ := exists_of_bind h
  obtain ⟨_, place, rfl, hplace⟩ := exists_of_upToRun hclose
  rw [run_one_eq_some.mp hopen, run_one_eq_some.mp hplace]
  exact ⟨rfl, notMem_of_upToRun_one hclose⟩

/-! ## Tokens by what they are read from -/

/-- Reads the two operands of a ratio. -/
def Token.operands (kind : Ratio) : Scanner Atom Token := do
  space
  let upper ← Operand.narrowScanner
  space
  let lower ← Operand.narrowScanner
  return ratio kind upper lower

/-- Where a command for a ratio stands, a ratio or the command alone is read. -/
theorem run_ratioScanner (hname : command.run input = some (name, behind))
    (hkind : Ratio.ofCommand? name = some kind) :
    Token.ratioScanner.run input = ((Token.operands kind).run behind).or
      (some (.broken ('\\' :: name), behind.dropWhile Atom.isBlank)) := by
  have hrun : Token.ratioScanner.run input
      = (Token.operands kind <|> (do space; return .broken ('\\' :: name))).run behind := by
    rw [Token.ratioScanner, run_bind, hname, Option.bind_some]
    show (ofOption (Ratio.ofCommand? name) >>= _).run behind = _
    rw [hkind]
    rfl
  rw [hrun, run_orElse]
  rfl

/-- A token that is read where a command for a ratio stands is a ratio or that command alone; others
are read where none stands. -/
theorem token_cases (h : Token.scanner.run input = some (token, rest)) :
    (∃ name kind behind, command.run input = some (name, behind) ∧
      Ratio.ofCommand? name = some kind ∧ ((∃ upper lower, token = .ratio kind upper lower) ∨
        token = .broken ('\\' :: name) ∧ (Token.operands kind).run behind = none)) ∨
    (∀ name behind, command.run input = some (name, behind) → Ratio.ofCommand? name = none) ∧
      (token = .blank ∨ (∃ symbol, token = .idiom symbol) ∨
        Token.itemScanner.run input = some (token, rest)) := by
  rw [Token.scanner, run_orElse, Option.or_eq_some_iff, run_orElse, Option.or_eq_some_iff] at h
  -- the scanners in the order in which they are tried: blank, ratio, idiom, item
  rcases h with hblank | ⟨-, hratio | ⟨hnone, hlater⟩⟩
  · obtain ⟨_, behind, hskip, hpure⟩ := exists_of_bind hblank
    cases hpure
    refine .inr ⟨fun name behind hname => ?_, .inl rfl⟩
    cases input with
    | nil => cases hname
    | cons atom tail =>
      have hatom : atom = .char '\\' := by
        by_contra hne
        rw [run_command_of_ne hne] at hname
        cases hname
      rw [hatom] at hskip
      cases hskip
  · obtain ⟨name, behind, hname, hnext⟩ := exists_of_bind hratio
    obtain ⟨kind, _, hfound, -⟩ := exists_of_bind hnext
    obtain ⟨hkind, rfl⟩ := run_ofOption_eq_some.mp hfound
    refine .inl ⟨name, kind, behind, hname, hkind, ?_⟩
    rw [run_ratioScanner hname hkind, Option.or_eq_some_iff] at hratio
    rcases hratio with hoperands | ⟨hrefused, hbroken⟩
    · obtain ⟨_, _, -, hupper⟩ := exists_of_bind hoperands
      obtain ⟨upper, _, -, hspace⟩ := exists_of_bind hupper
      obtain ⟨_, _, -, hlower⟩ := exists_of_bind hspace
      obtain ⟨lower, _, -, hpure⟩ := exists_of_bind hlower
      cases hpure
      exact .inl ⟨upper, lower, rfl⟩
    · cases hbroken
      exact .inr ⟨rfl, hrefused⟩
  · right
    constructor
    · intro name behind hname
      cases hkind : Ratio.ofCommand? name with
      | none => rfl
      | some kind =>
        rw [run_ratioScanner hname hkind, Option.or_eq_none_iff] at hnone
        exact absurd hnone.2 (Option.some_ne_none _)
    · rcases exists_of_orElse hlater with hidiom | hitem
      · obtain ⟨symbol, _, -, hpure⟩ := exists_of_bind hidiom
        cases hpure
        exact .inr (.inl ⟨symbol, rfl⟩)
      · exact .inr (.inr hitem)

/-- An item has a modifier, or is an operand with its shift. -/
theorem item_cases (h : Token.itemScanner.run input = some (token, rest)) :
    (∃ modifier shift operand middle, token = .item (some modifier) shift operand ∧
      Modifier.scanner.run input = some (modifier, middle)) ∨
    ∃ shift operand, token = .item none shift operand ∧
      Token.scripted.run input = some ((shift, operand), rest) := by
  rcases exists_of_orElse h with hmodified | hplain
  · obtain ⟨modifier, middle, hmodifier, hscripted⟩ := exists_of_bind hmodified
    obtain ⟨⟨shift, operand⟩, _, -, hpure⟩ := exists_of_bind hscripted
    cases hpure
    exact .inl ⟨modifier, shift, operand, middle, rfl, hmodifier⟩
  · obtain ⟨⟨shift, operand⟩, _, hscripted, hpure⟩ := exists_of_bind hplain
    cases hpure
    exact .inr ⟨shift, operand, rfl, hscripted⟩

/-- A command is a backslash and letters. -/
theorem exists_of_command (h : command.run input = some (name, rest)) :
    ∃ front, input = front ++ rest ∧ .char '[' ∉ front := by
  cases input with
  | nil => cases h
  | cons atom tail =>
    obtain rfl : atom = .char '\\' := by
      by_contra hne
      rw [run_command_of_ne hne] at h
      cases h
    rw [run_command_cons] at h
    split at h
    · cases h
    · cases h
      refine ⟨.char '\\' :: tail.takeWhile Atom.isLetter, ?_, fun hmem => ?_⟩
      · rw [List.cons_append, List.takeWhile_append_dropWhile]
      · rcases List.mem_cons.mp hmem with heq | hmem
        · cases heq
        · cases List.mem_takeWhile_imp hmem

/-- A degree is part of the input. -/
theorem infix_bracketed (front degree tail : List Atom) :
    degree <:+: front ++ .char '[' :: (degree ++ .char ']' :: tail) :=
  ⟨front ++ [.char '['], .char ']' :: tail, by simp⟩

/-- The degree of a root stands between the first opening bracket of the atoms that the root is read
from and the next closing one. -/
theorem exists_of_modifier {modifier : Modifier} {degree : List Atom}
    (h : Modifier.scanner.run input = some (modifier, rest))
    (hdegree : modifier.degree? = some degree) :
    ∃ front tail, input = front ++ .char '[' :: (degree ++ .char ']' :: tail) ∧
      .char '[' ∉ front ∧ .char ']' ∉ degree := by
  obtain ⟨name, behind, hname, hnext⟩ := exists_of_bind h
  obtain ⟨plain, _, hfound, hnext⟩ := exists_of_bind hnext
  obtain ⟨hplain, rfl⟩ := run_ofOption_eq_some.mp hfound
  obtain ⟨front, rfl, hfront⟩ := exists_of_command hname
  -- of the modifiers only a root with a degree can be meant
  have hnone : ∀ other : Modifier, other.degree? = none → other ≠ modifier := by
    rintro other hother rfl
    cases hother.symm.trans hdegree
  have hspace : ∀ (other : Modifier) (place : List Atom),
      (do space; return other).run place = some (modifier, rest) → other = modifier := by
    intro other place hrun
    obtain ⟨_, _, -, hpure⟩ := exists_of_bind hrun
    cases hpure
    rfl
  have hinner := (Modifier.of_ofCommand? hplain).2
  dsimp only at hnext
  split at hnext
  · obtain ⟨found, place, hfound, hnext⟩ := exists_of_bind hnext
    obtain rfl := hspace found place hnext
    rcases exists_of_orElse hfound with hread | hpure
    · obtain ⟨atoms, tail, hread, hpure⟩ := exists_of_bind hread
      cases hpure
      cases hdegree
      obtain ⟨hinput, hclose⟩ := exists_of_degree hread
      exact ⟨front, place, by rw [hinput], hfront, hclose⟩
    · cases hpure
      exact absurd rfl (hnone _ hinner)
  · obtain ⟨found, place, hfound, hnext⟩ := exists_of_bind hnext
    cases hfound
    exact absurd (hspace _ _ hnext) (hnone _ hinner)

/-- The degree of a token stands in the first square brackets of the input. -/
theorem exists_of_token_degree {degree : List Atom}
    (h : Token.scanner.run input = some (token, rest)) (hdegree : token.degree? = some degree) :
    ∃ front tail, input = front ++ .char '[' :: (degree ++ .char ']' :: tail) ∧
      .char '[' ∉ front ∧ .char ']' ∉ degree := by
  rcases token_cases h with ⟨_, _, _, -, -, hratio⟩ | ⟨-, hother⟩
  · rcases hratio with ⟨upper, lower, rfl⟩ | ⟨rfl, -⟩ <;> cases hdegree
  · rcases hother with rfl | ⟨symbol, rfl⟩ | hitem
    · cases hdegree
    · cases hdegree
    · rcases item_cases hitem with ⟨modifier, shift, operand, middle, rfl, hmodifier⟩ |
        ⟨shift, operand, rfl, -⟩
      · exact exists_of_modifier hmodifier hdegree
      · cases hdegree

/-- Atoms within a token stand in square brackets of the input. -/
theorem exists_of_inner (h : Token.scanner.run input = some (token, rest)) (hne : token.inner ≠ []) :
    ∃ front tail, input = front ++ .char '[' :: (token.inner ++ .char ']' :: tail) := by
  rw [Token.inner_eq] at hne ⊢
  cases hdegree : token.degree? with
  | none =>
    rw [hdegree] at hne
    exact absurd rfl hne
  | some degree =>
    obtain ⟨front, tail, hinput, -⟩ := exists_of_token_degree h hdegree
    exact ⟨front, tail, hinput⟩

/-- An operand that is a command is read as a command. -/
theorem exists_of_operand (h : Operand.scanner.run input = some (.command name, rest)) :
    ∃ behind, command.run input = some (name, behind) := by
  rcases exists_of_orElse h with hcommand | hother
  · obtain ⟨_, behind, hname, hnext⟩ := exists_of_bind hcommand
    obtain ⟨_, _, -, hpure⟩ := exists_of_bind hnext
    cases hpure
    exact ⟨behind, hname⟩
  · rcases exists_of_orElse hother with hbackslash | hother
    · obtain ⟨_, _, -, hnext⟩ := exists_of_bind hbackslash
      obtain ⟨atom, _, -, hpure⟩ := exists_of_bind hnext
      cases atom <;> cases hpure
    · rcases exists_of_orElse hother with hword | hsingle
      · obtain ⟨_, _, -, hpure⟩ := exists_of_bind hword
        cases hpure
      · obtain ⟨atom, _, -, hpure⟩ := exists_of_bind hsingle
        cases atom <;> cases hpure

/-- A command for a ratio is no item by itself. -/
theorem item_command_none
    (h : Token.scanner.run input = some (.item none none (.command name), rest)) :
    Ratio.ofCommand? name = none := by
  rcases token_cases h with ⟨_, _, _, -, -, hratio⟩ | ⟨hnone, hother⟩
  · rcases hratio with ⟨_, _, heq⟩ | ⟨heq, -⟩ <;> cases heq
  · rcases hother with heq | ⟨_, heq⟩ | hitem
    · cases heq
    · cases heq
    · rcases item_cases hitem with ⟨_, _, _, _, heq, -⟩ | ⟨shift, operand, heq, hscripted⟩
      · cases heq
      · cases heq
        rcases exists_of_orElse hscripted with hmarked | hplain
        · obtain ⟨_, _, -, hnext⟩ := exists_of_bind hmarked
          obtain ⟨_, _, -, hpure⟩ := exists_of_bind hnext
          cases hpure
        · obtain ⟨_, _, hoperand, hpure⟩ := exists_of_bind hplain
          cases hpure
          obtain ⟨behind, hname⟩ := exists_of_operand hoperand
          exact hnone name behind hname

/-- Every atom belongs to a token. -/
theorem run_token_ne_none (atom : Atom) (rest : List Atom) :
    Token.scanner.run (atom :: rest) ≠ none := by
  have hsingle : Operand.single.run (atom :: rest) ≠ none := by
    cases atom <;> exact Option.some_ne_none _
  have hoperand : Operand.scanner.run (atom :: rest) ≠ none :=
    run_orElse_ne_none (run_orElse_ne_none (run_orElse_ne_none hsingle))
  have hscripted : Token.scripted.run (atom :: rest) ≠ none :=
    run_orElse_ne_none (run_bind_ne_none hoperand fun _ _ => Option.some_ne_none _)
  have hitem : Token.itemScanner.run (atom :: rest) ≠ none :=
    run_orElse_ne_none (run_bind_ne_none hscripted fun _ _ => Option.some_ne_none _)
  exact run_orElse_ne_none (run_orElse_ne_none (run_orElse_ne_none hitem))

/-- A token is read at some place of the sequence. -/
theorem exists_suffix_of_mem_all {atoms : List Atom} (h : token ∈ Token.all atoms) :
    ∃ place rest, place <:+ atoms ∧ Token.scanner.run place = some (token, rest) := by
  fun_induction Token.all atoms with
  | case1 atoms first rest hrun ih =>
    rcases List.mem_cons.mp h with rfl | hmem
    · exact ⟨atoms, rest, List.suffix_rfl, hrun⟩
    · obtain ⟨place, left, hplace, hfound⟩ := ih hmem
      exact ⟨place, left, hplace.trans (Token.scanner.suffix hrun), hfound⟩
  | case2 atoms hrun => cases h

/-- The atoms within a token are fewer than those of the input. -/
theorem length_inner_lt (h : Token.scanner.run input = some (token, rest)) :
    token.inner.length < input.length := by
  by_cases hinner : token.inner = []
  · have hlt := Token.consumes_scanner _ _ _ h
    rw [hinner, List.length_nil]
    omega
  · obtain ⟨front, tail, rfl⟩ := exists_of_inner h hinner
    simp only [List.length_append, List.length_cons]
    omega

end WikiText.Formula
