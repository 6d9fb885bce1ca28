import WikiText.Proofs.Formula.Outcomes

/-!
# Diagnostics of a formula

A diagnostic names a command for a ratio as it is written, there are no more of them than such
commands, and a command with two arguments in braces is not reported (`diagnostics_sound`).

The first two follow from the account of the commands. For the last one, the text that is asked of a
command (`Furnished`) is compared with what its operands are read from (`Supplied`): two groups. Where
no pair of braces is left, an argument in balanced braces is one group (`exists_group`), for an open
brace before it would be the start of a pair (`hasPair_of_open`). A pass leaves the source behind a
command as it is, so that its arguments are still there after all of them (`Sound.become`). A command
inside braces, or in the degree of a root, has its arguments there too: balanced braces do not end
outside of what they begin in.
-/

namespace WikiText.Formula

open Scanner
open Text (Blank)

/-! ## Balanced texts -/

/-- A balanced text closes as many braces as it is told to, and leaves the others open. -/
theorem balanced_append {depth : ℕ} {text : Text} (h : balanced depth text = true) (more : ℕ)
    (rest : Text) : balanced (depth + more) (text ++ rest) = balanced more rest := by
  induction text generalizing depth with
  | nil =>
    obtain rfl : depth = 0 := by simpa [balanced] using h
    rw [Nat.zero_add, List.nil_append]
  | cons c text ih =>
    rw [balanced] at h
    rw [List.cons_append, balanced]
    split at h
    · next hopen => rw [if_pos hopen, Nat.add_right_comm, ih h]
    · next hopen =>
      rw [if_neg hopen]
      split at h
      · next hclose =>
        rw [Bool.and_eq_true, decide_eq_true_eq] at h
        -- the text closes one of its own braces, so one is open in any case
        have hpositive : 0 < depth + more := by omega
        have hdepth : depth + more - 1 = depth - 1 + more := by omega
        rw [if_pos hclose, hdepth, ih h.2, decide_eq_true hpositive, Bool.true_and]
      · next hclose => rw [if_neg hclose, ih h]

/-- A text without braces is balanced. -/
theorem balanced_of_forall {text : Text} (h : ∀ c ∈ text, c ≠ '{' ∧ c ≠ '}') :
    balanced 0 text = true := by
  induction text with
  | nil => rfl
  | cons c text ih =>
    obtain ⟨hopen, hclose⟩ := h c List.mem_cons_self
    rw [balanced, if_neg hopen, if_neg hclose]
    exact ih fun d hd => h d (List.mem_cons_of_mem c hd)

/-- A balanced text in braces is balanced. -/
theorem balanced_inBraces {text : Text} (h : balanced 0 text = true) :
    balanced 0 (inBraces text) = true := by
  rw [inBraces, List.cons_append, balanced, if_pos rfl]
  exact balanced_append h 1 ['}']

/-- Balanced texts one after the other are balanced. -/
theorem balanced_append_zero {text other : Text} (h : balanced 0 text = true)
    (hother : balanced 0 other = true) : balanced 0 (text ++ other) = true := by
  rw [← hother]
  exact balanced_append h 0 other

/-- As many closing braces as are open close them all. -/
theorem balanced_replicate (depth : ℕ) : balanced depth (List.replicate depth '}') = true := by
  induction depth with
  | zero => rfl
  | succ depth ih => simpa [List.replicate_succ, balanced] using ih

/-- A balanced text at the front of another one ends before the brace that the other one ends at. -/
theorem exists_of_append_eq {depth more : ℕ} {text part after rest : Text}
    (htext : balanced depth text = true) (hpart : balanced (depth + more) part = true)
    (h : text ++ after = part ++ '}' :: rest) :
    ∃ left, part = text ++ left ∧ balanced more left = true ∧ after = left ++ '}' :: rest := by
  rcases List.append_eq_append_iff.mp h with ⟨left, rfl, rfl⟩ | ⟨left, rfl, hleft⟩
  · rw [balanced_append htext] at hpart
    exact ⟨left, rfl, hpart, rfl⟩
  · cases left with
    | nil =>
      rw [List.append_nil] at htext
      refine ⟨[], by simp, ?_, hleft.symm⟩
      rw [← balanced_append htext more [], List.append_nil]
      exact hpart
    | cons c left =>
      -- if the open braces are closed behind the text, its own brace closes one too many
      cases hleft
      have hclosed := balanced_append htext more (List.replicate more '}')
      rw [balanced_replicate, List.append_assoc, ← Nat.add_zero (depth + more),
        balanced_append hpart] at hclosed
      cases hclosed

/-- Balanced texts that end at a brace are the same if they begin in the same way. -/
theorem eq_of_append_close_eq {text other rest rest' : Text} (htext : balanced 0 text = true)
    (hother : balanced 0 other = true) (h : text ++ '}' :: rest = other ++ '}' :: rest') :
    text = other ∧ rest = rest' := by
  obtain ⟨left, rfl, hleft, hclose⟩ := exists_of_append_eq htext (by rwa [Nat.zero_add]) h
  cases left with
  | nil => exact ⟨(List.append_nil text).symm, (List.cons_eq_cons.mp hclose).2⟩
  | cons c left =>
    obtain ⟨rfl, -⟩ := List.cons_eq_cons.mp hclose
    cases hleft

/-- The text of an open brace goes up to the brace that closes it. -/
theorem exists_close {depth : ℕ} {text : Text} (h : balanced (depth + 1) text = true) :
    ∃ inside rest, text = inside ++ '}' :: rest ∧ balanced 0 inside = true ∧
      balanced depth rest = true := by
  induction hlength : text.length using Nat.strong_induction_on generalizing text depth with
  | _ length ih =>
    cases text with
    | nil => simp [balanced] at h
    | cons c text =>
      have hshorter : text.length < length := by rw [← hlength, List.length_cons]; omega
      rw [balanced] at h
      by_cases hopen : c = '{'
      · -- this brace is closed first, and then the one before the text
        rw [if_pos hopen] at h
        obtain ⟨inner, later, rfl, hinner, hlater⟩ := ih _ hshorter h rfl
        have hlength : later.length < length := by
          rw [List.length_append, List.length_cons] at hshorter
          omega
        obtain ⟨inside, rest, rfl, hinside, hrest⟩ := ih _ hlength hlater rfl
        refine ⟨inBraces inner ++ inside, rest, by simp [inBraces, hopen], ?_, hrest⟩
        exact balanced_append_zero (balanced_inBraces hinner) hinside
      · rw [if_neg hopen] at h
        by_cases hclose : c = '}'
        · rw [if_pos hclose, Bool.and_eq_true, Nat.add_sub_cancel] at h
          exact ⟨[], text, by rw [hclose]; rfl, rfl, h.2⟩
        · rw [if_neg hclose] at h
          obtain ⟨inside, rest, rfl, hinside, hrest⟩ := ih _ hshorter h rfl
          refine ⟨c :: inside, rest, rfl, ?_, hrest⟩
          rw [balanced, if_neg hopen, if_neg hclose, hinside]

/-! ## Arguments in braces -/

/-- What may stand in braces: something, with balanced braces of which no pair is empty. -/
structure Full (text : Text) : Prop where
  ne_nil : text ≠ []
  isBalanced : balanced 0 text = true
  noEmptyPair : Text.occursIn ['{', '}'] text = false

/-- A brace before a full text opens no empty pair. -/
theorem Full.noEmptyPair_open {text : Text} (h : Full text) : ¬ ['{', '}'] <:+: '{' :: text := by
  rw [List.infix_cons_iff]
  rintro (⟨rest, heq⟩ | hinfix)
  · obtain ⟨-, rfl⟩ := List.cons_eq_cons.mp heq
    cases h.isBalanced
  · exact Text.occursIn_eq_false_iff.mp h.noEmptyPair hinfix

/-- A text that begins with two arguments in braces, with white space at most before each. -/
def Furnished (text : Text) : Prop :=
  ∃ gap upper gap' lower rest, Blank gap ∧ Full upper ∧ Blank gap' ∧ Full lower ∧
    text = gap ++ inBraces upper ++ gap' ++ inBraces lower ++ rest

/-- White space is balanced. -/
theorem balanced_of_blank {text : Text} (h : Blank text) : balanced 0 text = true := by
  apply balanced_of_forall
  intro c hc
  constructor
  · rintro rfl
    cases h _ hc
  · rintro rfl
    cases h _ hc

/-- The arguments stand before the end of the braces that the command stands in. -/
theorem Furnished.of_append {text rest : Text} (h : Furnished (text ++ '}' :: rest))
    (htext : balanced 0 text = true) : Furnished text := by
  obtain ⟨gap, upper, gap', lower, after, hgap, hupper, hgap', hlower, heq⟩ := h
  have hfront : balanced 0 (gap ++ inBraces upper ++ gap' ++ inBraces lower) = true := by
    apply balanced_append_zero _ (balanced_inBraces hlower.isBalanced)
    apply balanced_append_zero _ (balanced_of_blank hgap')
    exact balanced_append_zero (balanced_of_blank hgap) (balanced_inBraces hupper.isBalanced)
  obtain ⟨left, rfl, -, -⟩ := exists_of_append_eq hfront (by rwa [Nat.zero_add]) heq.symm
  exact ⟨gap, upper, gap', lower, left, hgap, hupper, hgap', hlower, rfl⟩

/-! ## Groups of balanced texts -/

/-- Whether the source of an atom has balanced braces, if it is a group. -/
def Atom.IsBalanced : Atom → Prop
  | char _ => True
  | group source _ => balanced 0 source = true

/-- The source of a balanced atom that is no brace is balanced. -/
theorem Atom.IsBalanced.source {atom : Atom} (h : atom.IsBalanced) (hbrace : atom.isBrace = false) :
    balanced 0 atom.source = true := by
  cases atom with
  | char c =>
    have hc : c ≠ '{' ∧ c ≠ '}' := by simpa [isBrace, isCharOf] using hbrace
    apply balanced_of_forall
    intro d hd
    rwa [List.mem_singleton.mp hd]
  | group source rendered => exact balanced_inBraces h

/-- Atoms that are no braces have balanced braces in their source. -/
theorem balanced_sourceOf {atoms : List Atom}
    (h : ∀ atom ∈ atoms, atom.IsBalanced ∧ atom.isBrace = false) :
    balanced 0 (Atom.sourceOf atoms) = true := by
  induction atoms with
  | nil => rfl
  | cons atom atoms ih =>
    obtain ⟨hatom, hbrace⟩ := h atom List.mem_cons_self
    rw [Atom.sourceOf_cons]
    apply balanced_append_zero (hatom.source hbrace)
    exact ih fun other hother => h other (List.mem_cons_of_mem atom hother)

/-- The atoms before the first brace, and that brace. -/
theorem exists_first_brace (atoms : List Atom) :
    ∃ front, (∀ atom ∈ front, atom.isBrace = false) ∧ (atoms = front ∨
      (∃ rest, atoms = front ++ .char '{' :: rest) ∨ ∃ rest, atoms = front ++ .char '}' :: rest) := by
  induction atoms with
  | nil => exact ⟨[], by simp, .inl rfl⟩
  | cons atom atoms ih =>
    by_cases hopen : atom = .char '{'
    · exact ⟨[], by simp, .inr (.inl ⟨atoms, by rw [hopen]; rfl⟩)⟩
    · by_cases hclose : atom = .char '}'
      · exact ⟨[], by simp, .inr (.inr ⟨atoms, by rw [hclose]; rfl⟩)⟩
      · obtain ⟨front, hfront, hcases⟩ := ih
        refine ⟨atom :: front, ?_, ?_⟩
        · intro other hother
          rcases List.mem_cons.mp hother with rfl | hother
          · exact Atom.isBrace_eq_false hopen hclose
          · exact hfront other hother
        · rcases hcases with rfl | ⟨rest, rfl⟩ | ⟨rest, rfl⟩
          · exact .inl rfl
          · exact .inr (.inl ⟨rest, rfl⟩)
          · exact .inr (.inr ⟨rest, rfl⟩)

/-- Where an open brace is closed, and something stands in each pair, a pair of braces is left. -/
theorem hasPair_of_open {atoms : List Atom} {depth : ℕ} {text rest : Text}
    (hatoms : ∀ atom ∈ atoms, atom.IsBalanced) (hbalanced : balanced depth text = true)
    (hne : text ≠ []) (hfull : ¬ ['{', '}'] <:+: '{' :: text)
    (hsource : Atom.sourceOf atoms = text ++ '}' :: rest) : HasPair (.char '{' :: atoms) := by
  induction hlength : atoms.length using Nat.strong_induction_on
    generalizing atoms depth text with
  | _ length ih =>
    obtain ⟨front, hfront, hcases⟩ := exists_first_brace atoms
    have hbefore : front <:+: atoms := by
      rcases hcases with rfl | ⟨_, rfl⟩ | ⟨_, rfl⟩
      · exact List.infix_rfl
      · exact (List.prefix_append _ _).isInfix
      · exact (List.prefix_append _ _).isInfix
    -- what comes behind the front is the rest of the balanced text
    have hleft : ∀ after, Atom.sourceOf front ++ after = text ++ '}' :: rest →
        ∃ left, text = Atom.sourceOf front ++ left ∧ balanced depth left = true ∧
          after = left ++ '}' :: rest := by
      intro after
      apply exists_of_append_eq (balanced_sourceOf fun atom hatom => ?_) (by rwa [Nat.zero_add])
      exact ⟨hatoms atom (hbefore.subset hatom), hfront atom hatom⟩
    rcases hcases with rfl | ⟨later, rfl⟩ | ⟨later, rfl⟩
    · -- the brace that closes the text is no part of a group
      obtain ⟨left, -, -, hnil⟩ := hleft [] (by rwa [List.append_nil])
      exact absurd hnil.symm (by simp)
    · -- the text of the next open brace is closed too
      rw [Atom.sourceOf_append] at hsource
      obtain ⟨left, rfl, hbalanced, hbrace⟩ := hleft _ hsource
      cases left with
      | nil => cases hbrace
      | cons c left =>
        obtain ⟨rfl, hlater⟩ := List.cons_eq_cons.mp hbrace
        have hinside : balanced (depth + 1) left = true := hbalanced
        have hinner : HasPair (.char '{' :: later) := by
          apply ih later.length _ _ hinside _ _ hlater rfl
          · rw [← hlength, List.length_append, List.length_cons]
            omega
          · exact fun atom hatom =>
              hatoms atom (List.mem_append_right front (List.mem_cons_of_mem _ hatom))
          · rintro rfl
            cases hinside
          · intro hempty
            apply hfull (hempty.trans _)
            exact ((List.suffix_append (Atom.sourceOf front) _).trans (List.suffix_cons '{' _)).isInfix
        apply hinner.of_part
        exact ((List.suffix_append front _).trans (List.suffix_cons _ _)).isInfix
    · refine ⟨[], front, later, rfl, ?_, hfront⟩
      rintro rfl
      obtain ⟨c, text, rfl⟩ := List.exists_cons_of_ne_nil hne
      obtain ⟨rfl, -⟩ := List.cons_eq_cons.mp hsource
      exact hfull ⟨[], text, rfl⟩

/-- Where no pair of braces is left, braces at the front of the source are those of a group. -/
theorem exists_group_cons {atoms : List Atom} {text rest : Text}
    (hatoms : ∀ atom ∈ atoms, atom.IsBalanced) (hpair : ¬ HasPair atoms) (htext : Full text)
    (hsource : Atom.sourceOf atoms = inBraces text ++ rest) :
    ∃ rendered later, atoms = .group text rendered :: later ∧ Atom.sourceOf later = rest := by
  cases atoms with
  | nil => cases hsource
  | cons atom atoms =>
    have hlater : ∀ other ∈ atoms, other.IsBalanced := fun other hother =>
      hatoms other (List.mem_cons_of_mem atom hother)
    rw [inBraces, List.append_assoc, List.singleton_append, List.cons_append,
      Atom.sourceOf_cons] at hsource
    cases atom with
    | char c =>
      -- a brace by itself would be closed in the source, and so a pair would be left
      obtain ⟨rfl, hopen⟩ := List.cons_eq_cons.mp hsource
      exact absurd (hasPair_of_open hlater htext.isBalanced htext.ne_nil htext.noEmptyPair_open
        hopen) hpair
    | group source rendered =>
      have hbalanced : balanced 0 source = true := hatoms _ List.mem_cons_self
      rw [Atom.source, List.append_assoc, List.singleton_append, List.cons_append] at hsource
      obtain ⟨rfl, rfl⟩ := eq_of_append_close_eq hbalanced htext.isBalanced
        (List.cons_eq_cons.mp hsource).2
      exact ⟨rendered, atoms, rfl, rfl⟩

/-- Where no pair of braces is left, an argument in braces is one group. -/
theorem exists_group {atoms : List Atom} {gap text rest : Text}
    (hatoms : ∀ atom ∈ atoms, atom.IsBalanced) (hpair : ¬ HasPair atoms) (hgap : Blank gap)
    (htext : Full text) (hsource : Atom.sourceOf atoms = gap ++ inBraces text ++ rest) :
    ∃ blanks rendered later, atoms = blanks ++ .group text rendered :: later ∧
      (∀ atom ∈ blanks, atom.isBlank = true) ∧ Atom.sourceOf later = rest := by
  induction gap generalizing atoms with
  | nil =>
    obtain ⟨rendered, later, rfl, hlater⟩ := exists_group_cons hatoms hpair htext hsource
    exact ⟨[], rendered, later, rfl, by simp, hlater⟩
  | cons c gap ih =>
    cases atoms with
    | nil => cases hsource
    | cons atom atoms =>
      cases atom with
      | char d =>
        obtain ⟨rfl, hlater⟩ := List.cons_eq_cons.mp hsource
        obtain ⟨blanks, rendered, later, rfl, hblanks, hrest⟩ :=
          ih (fun other hother => hatoms other (List.mem_cons_of_mem _ hother))
            (fun h => hpair (h.of_part (List.suffix_cons _ _).isInfix))
            (fun e he => hgap e (List.mem_cons_of_mem _ he)) hlater
        refine ⟨.char d :: blanks, rendered, later, rfl, ?_, hrest⟩
        intro other hother
        rcases List.mem_cons.mp hother with rfl | hother
        · exact hgap d List.mem_cons_self
        · exact hblanks other hother
      | group source rendered =>
        obtain ⟨rfl, -⟩ := List.cons_eq_cons.mp hsource
        cases hgap '{' List.mem_cons_self

/-- A sequence that begins with two groups, with white space at most before each. -/
def Supplied (atoms : List Atom) : Prop :=
  ∃ blanks source rendered blanks' source' rendered' rest,
    (∀ atom ∈ blanks, atom.isBlank = true) ∧ (∀ atom ∈ blanks', atom.isBlank = true) ∧
      atoms = blanks ++ .group source rendered :: (blanks' ++ .group source' rendered' :: rest)

/-- Where no pair of braces is left, two arguments in braces are two groups. -/
theorem Furnished.supplied {atoms : List Atom} (h : Furnished (Atom.sourceOf atoms))
    (hatoms : ∀ atom ∈ atoms, atom.IsBalanced) (hpair : ¬ HasPair atoms) : Supplied atoms := by
  obtain ⟨gap, upper, gap', lower, rest, hgap, hupper, hgap', hlower, hsource⟩ := h
  have hfirst : Atom.sourceOf atoms = gap ++ inBraces upper ++ (gap' ++ inBraces lower ++ rest) := by
    simpa using hsource
  obtain ⟨blanks, rendered, later, rfl, hblanks, hsecond⟩ :=
    exists_group hatoms hpair hgap hupper hfirst
  have hlater : later <:+ blanks ++ .group upper rendered :: later :=
    (List.suffix_cons _ later).trans (List.suffix_append blanks _)
  obtain ⟨blanks', rendered', left, rfl, hblanks', -⟩ :=
    exists_group (fun atom hatom => hatoms atom (hlater.subset hatom))
      (fun hlast => hpair (hlast.of_part hlater.isInfix)) hgap' hlower hsecond
  exact ⟨blanks, upper, rendered, blanks', lower, rendered', left, hblanks, hblanks', rfl⟩

/-- The groups stand before the end of the degree that the command stands in. -/
theorem Supplied.of_append {atoms rest : List Atom} (h : Supplied (atoms ++ .char ']' :: rest)) :
    Supplied atoms := by
  obtain ⟨blanks, source, rendered, blanks', source', rendered', later, hblanks, hblanks', heq⟩ := h
  -- neither blanks nor groups are the bracket, so both operands stand before it
  have hfront : ∀ atom ∈ blanks ++ .group source rendered :: (blanks' ++ [.group source' rendered']),
      atom ≠ .char ']' := by
    rintro atom hatom rfl
    simp only [List.mem_append, List.mem_cons, List.not_mem_nil, or_false, reduceCtorEq,
      false_or] at hatom
    rcases hatom with hatom | hatom
    · cases hblanks _ hatom
    · cases hblanks' _ hatom
  have hsplit : atoms ++ .char ']' :: rest
      = (blanks ++ .group source rendered :: (blanks' ++ [.group source' rendered'])) ++ later := by
    rw [heq]
    simp
  rcases List.append_eq_append_iff.mp hsplit with ⟨left, hlonger, hbracket⟩ | ⟨left, rfl, -⟩
  · cases left with
    | nil =>
      refine ⟨blanks, source, rendered, blanks', source', rendered', [], hblanks, hblanks', ?_⟩
      rw [← List.append_nil atoms, ← hlonger]
    | cons atom left =>
      obtain ⟨rfl, -⟩ := List.cons_eq_cons.mp hbracket
      exact absurd rfl (hfront _ (by rw [hlonger]; simp))
  · exact ⟨blanks, source, rendered, blanks', source', rendered', left, hblanks, hblanks', by simp⟩

/-! ## Commands that are reported -/

/-- A group is read as a narrow operand. -/
theorem run_narrow_group (source rendered : Text) (rest : List Atom) :
    Operand.narrowScanner.run (.group source rendered :: rest) = some (.group rendered, rest) := by
  rw [Operand.narrowScanner, run_orElse, run_bind, run_idiom_of_ne Atom.noConfusion]
  rfl

/-- White space before a group is skipped up to the group. -/
theorem run_space_group {blanks : List Atom} (h : ∀ atom ∈ blanks, atom.isBlank = true)
    (source rendered : Text) (rest : List Atom) :
    space.run (blanks ++ .group source rendered :: rest)
      = some ((), .group source rendered :: rest) := by
  have hrun : space.run (blanks ++ .group source rendered :: rest)
      = some ((), (blanks ++ .group source rendered :: rest).dropWhile Atom.isBlank) := rfl
  rw [hrun, List.dropWhile_append_of_pos h]
  rfl

/-- Two groups are read as the operands of a ratio. -/
theorem Supplied.run_operands {atoms : List Atom} (h : Supplied atoms) (kind : Ratio) :
    (Token.operands kind).run atoms ≠ none := by
  obtain ⟨blanks, source, rendered, blanks', source', rendered', rest, hblanks, hblanks', rfl⟩ := h
  rw [Token.operands, run_bind_of_eq_some (run_space_group hblanks source rendered _),
    run_bind_of_eq_some (run_narrow_group source rendered _),
    run_bind_of_eq_some (run_space_group hblanks' source' rendered' rest),
    run_bind_of_eq_some (run_narrow_group source' rendered' rest)]
  exact Option.some_ne_none _

/-- A token reports a command as it is written, behind which two operands are not read. -/
theorem exists_of_token_reported {input rest : List Atom} {token : Token} {kind : Ratio}
    {source : Text} (h : Token.scanner.run input = some (token, rest))
    (hmem : .reported kind source ∈ token.outcomes) :
    ∃ name behind, source = '\\' :: name ∧ Ratio.ofCommand? name = some kind ∧
      ⟨kind, behind⟩ ∈ ratios input ∧ (Token.operands kind).run behind = none := by
  -- an operand is shown or named
  have hoperand : ∀ operand : Operand, .reported kind source ∉ operand.outcomes := by
    intro operand hmem
    have hreport : brokenRatio source ∈ operand.outcomes.filterMap Outcome.report? :=
      List.mem_filterMap.mpr ⟨_, hmem, rfl⟩
    rw [filterMap_report_operand] at hreport
    cases hreport
  rcases token_cases h with ⟨name, found, behind, hname, hfound, hratio⟩ | ⟨-, hother⟩
  · rcases hratio with ⟨upper, lower, rfl⟩ | ⟨rfl, hrefused⟩
    · simp [Token.outcomes, hoperand] at hmem
    · rw [Token.outcomes_broken hfound] at hmem
      obtain ⟨rfl, rfl⟩ := Outcome.reported.inj (List.mem_singleton.mp hmem)
      have hat : ratioAt? input = some ⟨kind, behind⟩ := by simp [ratioAt?, hname, hfound]
      refine ⟨name, behind, rfl, hfound, ?_, hrefused⟩
      rw [ratios_of_run_command hname, hat]
      exact List.mem_cons_self
  · rcases hother with rfl | ⟨symbol, rfl⟩ | hitem
    · cases hmem
    · cases hmem
    · rcases item_cases hitem with ⟨_, _, operand, _, rfl, -⟩ | ⟨_, operand, rfl, -⟩
      · exact absurd hmem (hoperand operand)
      · exact absurd hmem (hoperand operand)

/-- The commands in brackets are commands of the sequence around them. -/
theorem mem_ratios_of_bracketed {inner : List Atom} {ratio : RatioCommand} (h : ratio ∈ ratios inner)
    (front tail : List Atom) :
    ratio.before (.char ']' :: tail)
      ∈ ratios (front ++ .char '[' :: (inner ++ .char ']' :: tail)) := by
  rw [ratios, ratiosFrom_append_cons (by decide) (by decide), ratios,
    ratiosFrom_append_cons (by decide) (by decide)]
  apply List.mem_append_right
  apply List.mem_append_left
  exact List.mem_map_of_mem h

/-- **What is reported is a command as it is written, behind which two operands are not read.** They are
looked for in the sequence, or in the degree of a root that the command stands in. -/
theorem exists_of_reported {depth : ℕ} {atoms : List Atom} {kind : Ratio} {source : Text}
    (h : .reported kind source ∈ outcomesUpTo depth atoms) :
    (∃ name, source = '\\' :: name ∧ Ratio.ofCommand? name = some kind) ∧
      ∃ ratio ∈ ratios atoms, ∃ behind, (Token.operands kind).run behind = none ∧
        (ratio.after = behind ∨ ∃ rest, ratio.after = behind ++ .char ']' :: rest) := by
  induction depth generalizing atoms with
  | zero => cases h
  | succ depth ih =>
    obtain ⟨token, htoken, hmem⟩ := List.mem_flatMap.mp h
    obtain ⟨place, rest, hrun, hplace⟩ := exists_of_mem_all htoken
    -- a report is of the degree, which stands in brackets of the input, or of the token itself
    rcases List.mem_append.mp hmem with hinner | hown
    · obtain ⟨hname, ratio, hratio, behind, hrefused, hbehind⟩ := ih hinner
      have hne : token.inner ≠ [] := by
        intro hnil
        rw [hnil] at hratio
        cases hratio
      obtain ⟨front, tail, rfl⟩ := exists_of_inner hrun hne
      have hmem := hplace.subset (mem_ratios_of_bracketed hratio front tail)
      refine ⟨hname, _, hmem, behind, hrefused, .inr ?_⟩
      rcases hbehind with hbehind | ⟨left, hbehind⟩
      · exact ⟨tail, by rw [RatioCommand.before, hbehind]⟩
      · exact ⟨left ++ .char ']' :: tail, by simp [RatioCommand.before, hbehind]⟩
    · obtain ⟨name, behind, hsource, hname, hratio, hrefused⟩ := exists_of_token_reported hrun hown
      exact ⟨⟨name, hsource, hname⟩, ⟨kind, behind⟩, hplace.subset hratio, behind, hrefused, .inl rfl⟩

/-- Nothing is reported where two groups stand behind every command. -/
theorem not_mem_outcomesIn {atoms : List Atom}
    (h : ∀ ratio ∈ ratios atoms, Supplied ratio.after) (kind : Ratio) (source : Text) :
    .reported kind source ∉ outcomesIn atoms := by
  intro hmem
  obtain ⟨-, ratio, hratio, behind, hrefused, hbehind⟩ := exists_of_reported hmem
  have hsupplied := h ratio hratio
  apply Supplied.run_operands _ kind hrefused
  rcases hbehind with rfl | ⟨rest, hbehind⟩
  · exact hsupplied
  · rw [hbehind] at hsupplied
    exact hsupplied.of_append

/-! ## Arguments and passes -/

/-- A stage of a formula in which two arguments in braces stand behind every command. -/
structure Sound (stage : List Atom) : Prop where
  isBalanced : ∀ atom ∈ stage, atom.IsBalanced
  furnished : ∀ ratio ∈ ratios stage, Furnished (Atom.sourceOf ratio.after)

/-- What is behind a command is the end of the sequence. -/
theorem RatioCommand.after_suffix {escaped : Bool} {atoms : List Atom} {ratio : RatioCommand}
    (h : ratio ∈ ratiosFrom escaped atoms) : ratio.after <:+ atoms := by
  induction atoms generalizing escaped with
  | nil => cases h
  | cons atom atoms ih =>
    rw [ratiosFrom] at h
    rcases List.mem_append.mp h with hat | hlater
    · have hfound : ratioAt? (atom :: atoms) = some ratio := by
        cases escaped with
        | true => cases hat
        | false => exact Option.mem_toList.mp hat
      obtain ⟨⟨name, behind⟩, hname, hkind⟩ := Option.bind_eq_some_iff.mp hfound
      obtain ⟨kind, -, rfl⟩ := Option.map_eq_some_iff.mp hkind
      exact command.suffix hname
    · exact (ih hlater).trans (List.suffix_cons atom atoms)

/-- The commands in a content between braces are among those inside. -/
theorem exists_of_mem_commandsInside {parts : List Segment} {content : List Atom}
    (h : .braced content ∈ parts) {ratio : RatioCommand} (hratio : ratio ∈ ratios content) :
    ∃ rest, ratio.before (.char '}' :: rest) ∈ commandsInside parts := by
  induction parts with
  | nil => cases h
  | cons part parts ih =>
    rcases List.mem_cons.mp h with rfl | hlater
    · exact ⟨_, List.mem_append_left _ (List.mem_map_of_mem hratio)⟩
    · obtain ⟨rest, hrest⟩ := ih hlater
      cases part with
      | loose atom => exact ⟨rest, hrest⟩
      | braced other => exact ⟨rest, List.mem_append_right _ hrest⟩

namespace Sound

variable {stage : List Atom}

/-- The commands of a stage, by what one pass makes of them. -/
theorem furnished_of_written (h : Sound stage) {ratio : RatioCommand}
    (hmem : ratio ∈ commandsInside (segments stage) ∨
      ratio ∈ ratios ((segments stage).map (Segment.become flatText))) :
    Furnished (Atom.sourceOf ratio.after) := by
  have hperm := perm_segments flatText (segments stage) false
  rw [flatMap_segments] at hperm
  have hwritten : ratio.written ∈ (ratiosFrom false stage).map RatioCommand.written := by
    rw [hperm.mem_iff, List.mem_append]
    exact hmem.imp List.mem_map_of_mem List.mem_map_of_mem
  obtain ⟨other, hother, hsame⟩ := List.mem_map.mp hwritten
  have hsource : Atom.sourceOf other.after = Atom.sourceOf ratio.after := congrArg Prod.snd hsame
  rw [← hsource]
  exact h.furnished other hother

/-- The segments of a sound stage are balanced. -/
theorem parts (h : Sound stage) : ∀ part ∈ segments stage, part.All Atom.IsBalanced :=
  all_segmentsFrom (fun _ => trivial) none stage (by simp) h.isBalanced

/-- What is between innermost braces is a stage of its own, without pairs. -/
theorem inside (h : Sound stage) {content : List Atom} (hcontent : .braced content ∈ segments stage) :
    Sound content ∧ ¬ HasPair content := by
  have hatoms := (h.parts _ hcontent).2
  refine ⟨⟨fun atom hatom => (hatoms atom hatom).1, fun ratio hratio => ?_⟩, ?_⟩
  · obtain ⟨rest, hrest⟩ := exists_of_mem_commandsInside hcontent hratio
    have hfurnished := h.furnished_of_written (.inl hrest)
    rw [RatioCommand.before, Atom.sourceOf_append] at hfurnished
    apply hfurnished.of_append
    apply balanced_sourceOf
    exact fun atom hatom => hatoms atom ((RatioCommand.after_suffix hratio).subset hatom)
  · rintro ⟨front, inner, rest, rfl, -, -⟩
    cases (hatoms (.char '{') (by simp)).2

/-- A pass leaves the arguments of the commands outside of innermost braces. -/
theorem become (h : Sound stage) : Sound ((segments stage).map (Segment.become flatText)) where
  isBalanced atom hatom := by
    obtain ⟨part, hpart, rfl⟩ := List.mem_map.mp hatom
    have hall := h.parts part hpart
    cases part with
    | loose atom => exact hall
    | braced content => exact balanced_sourceOf hall.2
  furnished ratio hratio := h.furnished_of_written (.inr hratio)

/-- Nothing is reported of a stage without pairs. -/
theorem not_mem_outcomes (h : Sound stage) (hpair : ¬ HasPair stage) (kind : Ratio) (source : Text) :
    .reported kind source ∉ outcomesIn stage := by
  apply not_mem_outcomesIn
  intro ratio hratio
  have hafter := RatioCommand.after_suffix hratio
  exact (h.furnished ratio hratio).supplied (fun atom hatom => h.isBalanced atom (hafter.subset hatom))
    fun hlast => hpair (hlast.of_part hafter.isInfix)

end Sound

/-! ## All diagnostics -/

/-- Each diagnostic of a formula is that of a ratio that is reported. -/
theorem exists_of_mem_trace_render {formula : Text} {diagnostic : Diagnostic}
    (h : diagnostic ∈ (render formula).trace) :
    ∃ kind source, .reported kind source ∈ outcomes formula ∧ diagnostic = brokenRatio source := by
  rw [trace_render] at h
  obtain ⟨outcome, hmem, hreport⟩ := List.mem_filterMap.mp h
  cases outcome with
  | reported kind source => exact ⟨kind, source, hmem, (Option.some.inj hreport).symm⟩
  | _ => cases hreport

/-- What becomes of a command is found where a stage, or the part of it between innermost braces, is
rendered. -/
theorem exists_of_mem_outcomes {Stage Inside : List Atom → Prop} {formula : Text} {outcome : Outcome}
    (hinside : ∀ stage, Stage stage → ∀ content, .braced content ∈ segments stage → Inside content)
    (hpass : ∀ stage, Stage stage → Stage ((segments stage).map (Segment.become flatText)))
    (hflat : ∀ stage, Stage stage → ¬ HasPair stage → Inside stage)
    (h : Stage (Atom.ofText formula)) (hmem : outcome ∈ outcomes formula) :
    ∃ content, Inside content ∧ outcome ∈ outcomesIn content := by
  have haccounted : ∀ content, (accounted content).value = flatText content := fun _ => rfl
  obtain ⟨hstage, htrace⟩ := flatten_invariant haccounted hinside hpass h
  rcases List.mem_append.mp hmem with hmem | hmem
  · exact htrace outcome hmem
  · exact ⟨_, hflat _ hstage (not_hasPair_flatten accounted _), hmem⟩

/-- **The diagnostics of a formula are sound.** Each is a warning whose source is a command for a ratio
as it is written. There are no more of them than such commands, though groups, degrees of roots and
what is around them are rendered one by one. If two arguments in braces follow every such command,
none is reported. -/
theorem diagnostics_sound (formula : Text) :
    (∀ diagnostic ∈ (render formula).trace, diagnostic.severity = .warning ∧
      diagnostic.source ∈ [some "\\frac", some "\\dfrac", some "\\tfrac", some "\\binom"]) ∧
    (render formula).trace.length ≤ (ratios (Atom.ofText formula)).length ∧
    ((∀ ratio ∈ ratios (Atom.ofText formula), Furnished (Atom.sourceOf ratio.after)) →
      (render formula).trace = []) := by
  refine ⟨fun diagnostic hmem => ?_, ?_, fun hfurnished => ?_⟩
  · have hnames : ∀ name ∈ ratioNames, some (String.ofList ('\\' :: name))
        ∈ [some "\\frac", some "\\dfrac", some "\\tfrac", some "\\binom"] := by decide
    obtain ⟨kind, source, houtcome, rfl⟩ := exists_of_mem_trace_render hmem
    obtain ⟨content, -, hreported⟩ := @exists_of_mem_outcomes (fun _ => True) (fun _ => True) _ _
      (fun _ _ _ _ => trivial) (fun _ _ => trivial) (fun _ _ _ => trivial) trivial houtcome
    obtain ⟨⟨name, rfl, hname⟩, -⟩ := exists_of_reported hreported
    exact ⟨rfl, hnames name (mem_ratioNames hname)⟩
  -- each command has one outcome, and a report is that of one outcome
  · have hlength := (perm_outcomes formula).length_eq
    rw [List.length_map, List.length_map] at hlength
    rw [hlength, trace_render]
    exact List.length_filterMap_le _ _
  -- what is asked of the formula is kept by each pass, and no token of a sound stage is reported
  · have hatoms : Sound (Atom.ofText formula) := by
      refine ⟨fun atom hatom => ?_, hfurnished⟩
      obtain ⟨c, -, rfl⟩ := List.mem_map.mp hatom
      trivial
    rw [List.eq_nil_iff_forall_not_mem]
    intro diagnostic hmem
    obtain ⟨kind, source, houtcome, -⟩ := exists_of_mem_trace_render hmem
    obtain ⟨content, ⟨hsound, hpair⟩, hreported⟩ := exists_of_mem_outcomes
      (fun _ hstage _ => hstage.inside) (fun _ => Sound.become) (fun _ => And.intro) hatoms houtcome
    exact hsound.not_mem_outcomes hpair kind source hreported

/-- A fraction in the degree of a root is not reported. -/
theorem diagnostics_sound_degree :
    (∀ ratio ∈ ratios (Atom.ofText "\\sqrt[\\frac {a} {b}]{x}".toList),
      Furnished (Atom.sourceOf ratio.after)) ∧
    (render "\\sqrt[\\frac {a} {b}]{x}".toList).trace = [] := by
  have hspace : Blank [' '] := fun c hc => by
    rw [List.mem_singleton.mp hc]
    rfl
  have hfurnished : ∀ ratio ∈ ratios (Atom.ofText "\\sqrt[\\frac {a} {b}]{x}".toList),
      Furnished (Atom.sourceOf ratio.after) := by
    have hratios : ratios (Atom.ofText "\\sqrt[\\frac {a} {b}]{x}".toList)
        = [⟨.fraction, Atom.ofText " {a} {b}]{x}".toList⟩] := by decide +kernel
    rw [hratios]
    intro ratio hratio
    rw [List.mem_singleton.mp hratio]
    exact ⟨[' '], ['a'], [' '], ['b'], "]{x}".toList, hspace, ⟨by decide, rfl, rfl⟩, hspace,
      ⟨by decide, rfl, rfl⟩, by decide +kernel⟩
  exact ⟨hfurnished, (diagnostics_sound _).2.2 hfurnished⟩

end WikiText.Formula
