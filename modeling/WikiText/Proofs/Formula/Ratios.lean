import WikiText.Proofs.Formula.Reading

/-!
# What becomes of the commands for ratios

A command for a ratio stands in a sequence of atoms at each backslash with one of the four names
behind it, unless another backslash escapes it (`ratios`). Reading the sequence into tokens, every
such command ends up in one token, which shows it as a ratio, reports it, or shows it by its name
(`Outcome`).

`kinds_outcomesIn` says that nothing is lost and nothing is counted twice: the outcomes of a sequence
are those of its commands, in order. A scanner is judged by the commands that it reads (`Reads`), with
one rule for each way in which scanners are composed. The judgement carries a credit, the commands that
were read before, so that a value which is put together at the end can account for all of them. A
scanner that is run only where another one refused is judged at that place alone (`ReadsAt`), for a
backslash is read as a character only where no command stands. The degree of a root is cut out by its
brackets and read by itself later, so the modifier accounts for what is in it.
-/

namespace WikiText.Formula

open Scanner

/-! ## Where commands for ratios stand -/

/-- A command for a ratio where it stands in a sequence. -/
structure RatioCommand where
  /-- The ratio that the command writes. -/
  kind : Ratio
  /-- The atoms behind the command. -/
  after : List Atom
  deriving DecidableEq, Repr

/-- The same command in a sequence that goes on. -/
def RatioCommand.before (tail : List Atom) (ratio : RatioCommand) : RatioCommand :=
  ⟨ratio.kind, ratio.after ++ tail⟩

/-- The command for a ratio at the front of a sequence. -/
def ratioAt? (atoms : List Atom) : Option RatioCommand :=
  (command.run atoms).bind fun (name, after) =>
    (Ratio.ofCommand? name).map fun kind => ⟨kind, after⟩

/-- The commands for ratios of a sequence, in order. A backslash that stands behind one that begins no
command is escaped, and begins none either; `escaped` says that the first atom of the sequence is
behind such a backslash. -/
def ratiosFrom (escaped : Bool) : List Atom → List RatioCommand
  | [] => []
  | atom :: rest =>
    (if escaped then [] else (ratioAt? (atom :: rest)).toList)
      ++ ratiosFrom (!escaped && atom = .char '\\') rest

/-- The commands for ratios of a sequence. -/
def ratios (atoms : List Atom) : List RatioCommand :=
  ratiosFrom false atoms

/-- A command begins with a backslash. -/
theorem ratioAt?_of_ne {atom : Atom} (h : atom ≠ .char '\\') (rest : List Atom) :
    ratioAt? (atom :: rest) = none := by
  rw [ratioAt?, run_command_of_ne h]
  rfl

/-- An atom that is no backslash begins no command, escaped or not. -/
theorem ratiosFrom_cons_of_ne {atom : Atom} (h : atom ≠ .char '\\') (escaped : Bool)
    (rest : List Atom) : ratiosFrom escaped (atom :: rest) = ratios rest := by
  rw [ratiosFrom, ratioAt?_of_ne h]
  simp [h, ratios]

/-- The commands of a sequence are those behind an atom that is no backslash. -/
theorem ratios_cons_of_ne {atom : Atom} (h : atom ≠ .char '\\') (rest : List Atom) :
    ratios (atom :: rest) = ratios rest :=
  ratiosFrom_cons_of_ne h false rest

/-- Atoms that are no backslashes hold no commands. -/
theorem ratios_append_of_forall {front : List Atom} (h : ∀ atom ∈ front, atom ≠ .char '\\')
    (rest : List Atom) : ratios (front ++ rest) = ratios rest := by
  induction front with
  | nil => rfl
  | cons atom front ih =>
    rw [List.cons_append, ratios_cons_of_ne (h atom List.mem_cons_self),
      ih fun other hother => h other (List.mem_cons_of_mem atom hother)]

/-- A test that a backslash fails takes no backslash. -/
theorem ne_of_mem_takeWhile {p : Atom → Bool} (hp : p (.char '\\') = false) {rest : List Atom}
    {atom : Atom} (h : atom ∈ rest.takeWhile p) : atom ≠ .char '\\' := by
  rintro rfl
  rw [List.mem_takeWhile_imp h] at hp
  cases hp

/-- A command is followed by what the commands behind it are. -/
theorem ratios_of_run_command {input rest : List Atom} {name : Text}
    (h : command.run input = some (name, rest)) :
    ratios input = (ratioAt? input).toList ++ ratios rest := by
  cases input with
  | nil => cases h
  | cons atom tail =>
    by_cases hatom : atom = .char '\\'
    · subst hatom
      rw [run_command_cons] at h
      split at h
      · cases h
      · next hletters =>
        cases h
        -- the letters of the name are behind a backslash, but they are none themselves
        have hsplit := List.takeWhile_append_dropWhile (p := Atom.isLetter) (l := tail)
        have hnone : ∀ letter ∈ tail.takeWhile Atom.isLetter, letter ≠ .char '\\' :=
          fun _ => ne_of_mem_takeWhile rfl
        obtain ⟨letter, more, hname⟩ := List.exists_cons_of_ne_nil hletters
        have hrest := ratios_append_of_forall hnone (tail.dropWhile Atom.isLetter)
        rw [hsplit] at hrest
        rw [hname, List.cons_append] at hsplit
        have hletter := hnone letter (by rw [hname]; exact List.mem_cons_self)
        have htail : ratiosFrom true tail = ratios tail := by
          rw [← hsplit, ratiosFrom_cons_of_ne hletter, ratios_cons_of_ne hletter]
        rw [← hrest, ← htail, ratios, ratiosFrom]
        simp
    · rw [run_command_of_ne hatom] at h
      cases h

/-- A backslash that begins no command takes the next atom along. -/
theorem ratios_escape {atom : Atom} {rest : List Atom}
    (h : command.run (.char '\\' :: atom :: rest) = none) :
    ratios (.char '\\' :: atom :: rest) = ratios rest := by
  rw [ratios, ratiosFrom, ratioAt?, h, ratiosFrom]
  simp [ratios]

/-- An atom that fails the test ends what is taken. -/
theorem takeWhile_append_cons {p : Atom → Bool} {atom : Atom} (h : p atom = false)
    (front rest : List Atom) :
    (front ++ atom :: rest).takeWhile p = front.takeWhile p ∧
      (front ++ atom :: rest).dropWhile p = front.dropWhile p ++ atom :: rest := by
  induction front with
  | nil => simp [h]
  | cons other front ih =>
    by_cases hother : p other = true
    · simpa [hother] using ih
    · simp [hother]

/-- The commands before an atom that is no letter and no backslash end before it. -/
theorem ratiosFrom_append_cons {atom : Atom} (hletter : atom.isLetter = false)
    (hne : atom ≠ .char '\\') (escaped : Bool) (front rest : List Atom) :
    ratiosFrom escaped (front ++ atom :: rest)
      = (ratiosFrom escaped front).map (RatioCommand.before (atom :: rest)) ++ ratios rest := by
  induction front generalizing escaped with
  | nil => exact ratiosFrom_cons_of_ne hne escaped rest
  | cons other front ih =>
    -- the name of a command ends before the atom, which is no letter
    have hat : ratioAt? (other :: (front ++ atom :: rest))
        = (ratioAt? (other :: front)).map (RatioCommand.before (atom :: rest)) := by
      by_cases hother : other = .char '\\'
      · subst hother
        obtain ⟨htake, hdrop⟩ := takeWhile_append_cons hletter front rest
        rw [ratioAt?, ratioAt?, run_command_cons, run_command_cons, htake, hdrop]
        split
        · rfl
        · simp only [Option.bind_some, Option.map_map]
          rfl
      · rw [ratioAt?_of_ne hother, ratioAt?_of_ne hother]
        rfl
    rw [List.cons_append, ratiosFrom, ratiosFrom, ih, hat]
    cases escaped <;> cases ratioAt? (other :: front) <;> simp

/-! ## What tokens make of them -/

/-- What becomes of a command for a ratio. -/
inductive Outcome where
  /-- It is shown as a ratio of its two operands. -/
  | shown (kind : Ratio)
  /-- It is shown as it is written, and reported. -/
  | reported (kind : Ratio) (source : Text)
  /-- It is shown by its name, as the operand of something else. -/
  | named (kind : Ratio)
  deriving DecidableEq, Repr

/-- The ratio that the command writes. -/
def Outcome.kind : Outcome → Ratio
  | shown kind => kind
  | reported kind _ => kind
  | named kind => kind

/-- What is noted about the command. -/
def Outcome.report? : Outcome → Option Diagnostic
  | reported _ source => some (brokenRatio source)
  | _ => none

/-- What becomes of the command that an operand may be. -/
def Operand.outcomes : Operand → List Outcome
  | command name => ((Ratio.ofCommand? name).map .named).toList
  | _ => []

/-- What becomes of the commands that a token stands for itself. -/
def Token.outcomes : Token → List Outcome
  | ratio kind upper lower => .shown kind :: (upper.outcomes ++ lower.outcomes)
  | broken source => ((Ratio.ofCommand? (source.drop 1)).map (.reported · source)).toList
  | item _ _ operand => operand.outcomes
  | _ => []

/-- A command that could not be read is reported. -/
theorem Token.outcomes_broken {name : Text} {kind : Ratio} (h : Ratio.ofCommand? name = some kind) :
    (broken ('\\' :: name)).outcomes = [.reported kind ('\\' :: name)] := by
  show ((Ratio.ofCommand? name).map _).toList = _
  rw [h]
  rfl

/-- What becomes of the commands of a sequence in which roots stand in each other's degrees less than
`depth` deep, in the order in which they stand. -/
def outcomesUpTo : Nat → List Atom → List Outcome
  | 0, _ => []
  | depth + 1, atoms =>
    (Token.all atoms).flatMap fun token => outcomesUpTo depth token.inner ++ token.outcomes

/-- What becomes of the commands of a sequence. -/
def outcomesIn (atoms : List Atom) : List Outcome :=
  outcomesUpTo (atoms.length + 1) atoms

/-! ## What scanners read of them -/

section

variable {α β : Type} {credit : List Ratio} {input : List Atom}

/-- At one place, a scanner reads the commands that its value accounts for besides those of `credit`,
and leaves the others to be read. -/
def ReadsAt (input : List Atom) (credit : List Ratio) (scanner : Scanner Atom α)
    (account : α → List Ratio) : Prop :=
  ∀ a rest, scanner.run input = some (a, rest) → ∃ block, ratios input = block ++ ratios rest ∧
    account a = credit ++ block.map RatioCommand.kind

/-- At every place, a scanner reads the commands that its value accounts for. -/
def Reads (credit : List Ratio) (scanner : Scanner Atom α) (account : α → List Ratio) : Prop :=
  ∀ input, ReadsAt input credit scanner account

theorem Reads.pure {a : α} {account : α → List Ratio} (h : account a = credit) :
    Reads credit (pure a) account := by
  rintro input _ _ ⟨⟩
  exact ⟨[], rfl, by simpa using h⟩

/-- What two scanners read one after the other is accounted for by the result of the second. -/
theorem ReadsAt.bind {scanner : Scanner Atom α} {next : α → Scanner Atom β}
    {middle : α → List Ratio} {account : β → List Ratio} (h : ReadsAt input credit scanner middle)
    (hnext : ∀ a, Reads (middle a) (next a) account) :
    ReadsAt input credit (scanner >>= next) account := by
  intro b rest hrun
  obtain ⟨a, between, hfirst, hsecond⟩ := exists_of_bind hrun
  obtain ⟨front, hfront, hmiddle⟩ := h a between hfirst
  obtain ⟨back, hback, haccount⟩ := hnext a between b rest hsecond
  refine ⟨front ++ back, by rw [hfront, hback, List.append_assoc], ?_⟩
  rw [haccount, hmiddle, List.append_assoc, List.map_append]

theorem Reads.bind {scanner : Scanner Atom α} {next : α → Scanner Atom β}
    {middle : α → List Ratio} {account : β → List Ratio} (h : Reads credit scanner middle)
    (hnext : ∀ a, Reads (middle a) (next a) account) : Reads credit (scanner >>= next) account :=
  fun input => (h input).bind hnext

/-- The second scanner is run only where the first one refuses. -/
theorem ReadsAt.orElse {first second : Scanner Atom α} {account : α → List Ratio}
    (h : ReadsAt input credit first account)
    (h' : first.run input = none → ReadsAt input credit second account) :
    ReadsAt input credit (first <|> second) account := by
  intro a rest hrun
  rw [run_orElse] at hrun
  rcases Option.or_eq_some_iff.mp hrun with hfirst | ⟨hnone, hsecond⟩
  · exact h a rest hfirst
  · exact h' hnone a rest hsecond

theorem Reads.orElse {first second : Scanner Atom α} {account : α → List Ratio}
    (h : Reads credit first account) (h' : Reads credit second account) :
    Reads credit (first <|> second) account :=
  fun input => (h input).orElse fun _ => h' input

/-- Each scanner of a list accounts for what it reads. -/
theorem Reads.firstOf {scanners : List (Scanner Atom α)} {account : α → List Ratio}
    (h : ∀ scanner ∈ scanners, Reads credit scanner account) :
    Reads credit (firstOf scanners) account := by
  induction scanners with
  | nil =>
    intro input a rest hrun
    cases hrun
  | cons scanner others ih =>
    exact (h scanner List.mem_cons_self).orElse
      (ih fun other hother => h other (List.mem_cons_of_mem scanner hother))

/-- What is read behind a value that is looked up. -/
theorem Reads.bind_ofOption {value : Option α} {next : α → Scanner Atom β}
    {account : β → List Ratio} (h : ∀ a, value = some a → Reads credit (next a) account) :
    Reads credit (ofOption value >>= next) account := by
  intro input b rest hrun
  obtain ⟨a, behind, hfound, hnext⟩ := exists_of_bind hrun
  obtain ⟨hvalue, rfl⟩ := run_ofOption_eq_some.mp hfound
  exact h a hvalue input b rest hnext

/-- A run without backslashes has no command. -/
theorem reads_takeWhile {p : Atom → Bool} (hp : p (.char '\\') = false) :
    Reads credit (takeWhile p) fun _ => credit := by
  rintro input _ _ ⟨⟩
  refine ⟨[], ?_, by simp⟩
  have hnone : ∀ atom ∈ input.takeWhile p, atom ≠ .char '\\' := fun _ => ne_of_mem_takeWhile hp
  have hrest := ratios_append_of_forall hnone (input.dropWhile p)
  rwa [List.takeWhile_append_dropWhile] at hrest

/-- An atom that is no backslash has no command. -/
theorem reads_satisfy {p : Atom → Bool} (hp : p (.char '\\') = false) :
    Reads credit (satisfy p) fun _ => credit := by
  intro input atom rest hrun
  obtain ⟨hatom, rfl⟩ := run_satisfy_eq_some.mp hrun
  refine ⟨[], ratios_cons_of_ne ?_ rest, by simp⟩
  rintro rfl
  rw [hp] at hatom
  cases hatom

/-- A nonempty run without backslashes has no command. -/
theorem reads_takeWhile1 {p : Atom → Bool} (hp : p (.char '\\') = false) :
    Reads credit (takeWhile1 p) fun _ => credit :=
  (reads_satisfy hp).bind fun _ => (reads_takeWhile hp).bind fun _ => Reads.pure rfl

/-- A given character other than a backslash has no command. -/
theorem reads_one {c : Char} (hc : c ≠ '\\') : Reads credit (one (.char c)) fun _ => credit := by
  have hbeq : (Atom.char '\\' == Atom.char c) = false := by simpa using Ne.symm hc
  exact (reads_satisfy hbeq).bind fun _ => Reads.pure rfl

/-- Spaces have no command. -/
theorem reads_space : Reads credit space fun _ => credit :=
  (reads_takeWhile rfl).bind fun _ => Reads.pure rfl

/-- The name of a command accounts for it. -/
theorem reads_command : Reads credit command fun name => credit ++ (Ratio.ofCommand? name).toList := by
  intro input name rest hrun
  refine ⟨(ratioAt? input).toList, ratios_of_run_command hrun, ?_⟩
  rw [ratioAt?, hrun, Option.bind_some]
  dsimp only
  cases Ratio.ofCommand? name with
  | none => rfl
  | some kind => rfl

/-- Where no command stands, a backslash is read with the atom behind it, unless it is the last. -/
theorem readsAt_afterBackslash_orElse {other : Scanner Atom Operand}
    {account : Operand → List Ratio} (h : command.run input = none)
    (hescaped : ∀ c, account (.escaped c) = credit)
    (hgroup : ∀ rendered, account (.group rendered) = credit)
    (hother : (∀ tail, input = .char '\\' :: tail → tail = []) → ReadsAt input credit other account) :
    ReadsAt input credit (Operand.afterBackslash <|> other) account := by
  -- the other scanner is asked only where the backslash is the last atom or is missing
  by_cases hlone : ∀ tail, input = .char '\\' :: tail → tail = []
  · refine ReadsAt.orElse ?_ fun _ => hother hlone
    intro operand rest hrun
    cases input with
    | nil => cases hrun
    | cons atom tail =>
      by_cases hatom : atom = .char '\\'
      · subst hatom
        rw [hlone tail rfl] at hrun
        cases hrun
      · rw [Operand.afterBackslash, run_bind, run_one_of_ne hatom] at hrun
        cases hrun
  · push Not at hlone
    obtain ⟨tail, rfl, hne⟩ := hlone
    obtain ⟨atom, tail, rfl⟩ := List.exists_cons_of_ne_nil hne
    refine ReadsAt.orElse ?_ fun hnone => ?_
    · intro operand rest hrun
      cases atom with
      | char c =>
        cases hrun
        exact ⟨[], ratios_escape h, by simpa using hescaped c⟩
      | group source rendered =>
        cases hrun
        exact ⟨[], ratios_escape h, by simpa using hgroup rendered⟩
    · cases atom <;> cases hnone

/-- A single atom is no backslash that anything stands behind. -/
theorem readsAt_single {account : Operand → List Ratio} (h : command.run input = none)
    (hlone : ∀ tail, input = .char '\\' :: tail → tail = [])
    (hchar : ∀ c, account (.char c) = credit)
    (hgroup : ∀ rendered, account (.group rendered) = credit) :
    ReadsAt input credit Operand.single account := by
  intro operand rest hrun
  cases input with
  | nil => cases hrun
  | cons atom tail =>
    -- a backslash that is the last atom begins no command
    have hratios : ratios (atom :: tail) = ratios tail := by
      by_cases hatom : atom = .char '\\'
      · obtain rfl := hlone tail (by rw [hatom])
        rw [ratios, ratiosFrom, ratioAt?, h]
        rfl
      · exact ratios_cons_of_ne hatom tail
    cases atom with
    | char c =>
      cases hrun
      exact ⟨[], hratios, by simpa using hchar c⟩
    | group source rendered =>
      cases hrun
      exact ⟨[], hratios, by simpa using hgroup rendered⟩

/-- The ratios that an operand accounts for: that of the command that it may be. -/
def Operand.kinds (operand : Operand) : List Ratio :=
  operand.outcomes.map Outcome.kind

/-- An operand that is a command accounts for the ratio of that name. -/
theorem Operand.kinds_command (name : Text) :
    (command name).kinds = (Ratio.ofCommand? name).toList := by
  rw [kinds, outcomes]
  cases Ratio.ofCommand? name with
  | none => rfl
  | some kind => rfl

/-- An operand accounts for the commands it is read from. -/
theorem reads_operand :
    Reads credit Operand.scanner fun operand => credit ++ operand.kinds := by
  have hword : Atom.isWordChar (.char '\\') = false := by decide
  intro input
  refine ReadsAt.orElse ?_ fun hnone => ?_
  · refine Reads.bind reads_command (fun name => Reads.bind reads_space fun _ => Reads.pure ?_) input
    rw [Operand.kinds_command]
  · have hcommand := run_command_of_refused (fun _ _ => Option.some_ne_none _) hnone
    refine readsAt_afterBackslash_orElse hcommand (fun c => ?_) (fun rendered => ?_) fun hlone => ?_
    · exact List.append_nil credit
    · exact List.append_nil credit
    · refine ReadsAt.orElse ?_ fun _ => readsAt_single hcommand hlone ?_ ?_
      · refine (reads_takeWhile1 hword).bind (fun _ => Reads.pure ?_) input
        exact List.append_nil credit
      · exact fun c => List.append_nil credit
      · exact fun rendered => List.append_nil credit

/-! ### Idioms -/

/-- No idiom is spelled with the name of a command for a ratio, or with a backslash at the end. -/
theorem idioms_spelling : ∀ spelling ∈ idioms,
    (∀ name ∈ ratioNames, ¬ name <:+: spelling.toList) ∧
      spelling.toList.getLast? ≠ some '\\' ∧ spelling.toList ≠ [] := by
  decide

/-- Atoms at whose places no command for a ratio stands, and of which the last is no backslash. -/
theorem ratiosFrom_append_of_none {block rest : List Atom} (hne : block ≠ [])
    (hlast : block.getLast? ≠ some (.char '\\'))
    (h : ∀ place, place <:+ block → place ≠ [] → ratioAt? (place ++ rest) = none)
    (escaped : Bool) : ratiosFrom escaped (block ++ rest) = ratios rest := by
  induction block generalizing escaped with
  | nil => exact absurd rfl hne
  | cons atom block ih =>
    have hat := h (atom :: block) (List.suffix_refl _) (List.cons_ne_nil _ _)
    rw [List.cons_append] at hat
    rw [List.cons_append, ratiosFrom, hat]
    cases block with
    | nil =>
      have hatom : atom ≠ .char '\\' := fun heq => hlast (by rw [heq]; rfl)
      simp [hatom, ratios]
    | cons other block =>
      rw [ih (List.cons_ne_nil _ _) hlast fun place hplace =>
        h place (hplace.trans (List.suffix_cons _ _))]
      simp

/-- The last character of a source is that of its last atom. -/
theorem getLast?_sourceOf_concat (front : List Atom) (c : Char) :
    (Atom.sourceOf (front ++ [.char c])).getLast? = some c := by
  rw [Atom.sourceOf_append]
  exact List.getLast?_concat

/-- The letters behind a place of a text whose last letter ends a name are in that text. -/
theorem takeWhile_infix_of_last {part rest : List Atom} (hne : part ≠ [])
    (h : ∀ front letter, part = front ++ [letter] → letter.isLetter = true →
      rest.head?.any Atom.isLetter = false) :
    (part ++ rest).takeWhile Atom.isLetter <:+: part := by
  rw [List.takeWhile_append]
  split
  · next hlength =>
    obtain ⟨front, letter, rfl⟩ := (List.eq_nil_or_concat' part).resolve_left hne
    have hall : (front ++ [letter]).takeWhile Atom.isLetter = front ++ [letter] :=
      (List.takeWhile_prefix _).eq_of_length hlength
    have hletter : letter.isLetter = true := List.mem_takeWhile_imp (by rw [hall]; simp)
    have hhead := h front letter rfl hletter
    have hnil : rest.takeWhile Atom.isLetter = [] := by
      cases rest with
      | nil => rfl
      | cons atom rest => rw [List.takeWhile_cons_of_neg (by simpa using hhead)]
    rw [hnil, List.append_nil]
  · exact (List.takeWhile_prefix _).isInfix

/-- An idiom holds no command for a ratio, and none begins in it. -/
theorem reads_idiom : Reads credit idiom fun _ => credit := by
  refine Reads.firstOf fun scanner hscanner => ?_
  obtain ⟨spelling, hlisted, rfl⟩ := List.mem_map.mp hscanner
  obtain ⟨hnames, hbackslash, hspelling⟩ := idioms_spelling spelling hlisted
  intro input symbol rest hrun
  obtain ⟨block, rfl, hblock, hbefore⟩ := exists_of_idiomOf hrun
  have hne : block ≠ [] := by
    rintro rfl
    exact hspelling hblock.symm
  have hlast : block.getLast? ≠ some (.char '\\') := by
    intro heq
    obtain ⟨front, rfl⟩ := List.getLast?_eq_some_iff.mp heq
    rw [← hblock, getLast?_sourceOf_concat] at hbackslash
    exact hbackslash rfl
  refine ⟨[], ratiosFrom_append_of_none hne hlast ?_ false, by simp⟩
  -- no command for a ratio begins at a backslash of the block, as none is named in the spelling
  intro place hplace hplacene
  obtain ⟨atom, part, rfl⟩ := List.exists_cons_of_ne_nil hplacene
  by_cases hatom : atom = .char '\\'
  · subst hatom
    have hpart : part <:+: block := ((List.suffix_cons _ part).trans hplace).isInfix
    obtain ⟨before, hbefore'⟩ := hplace
    -- the name ends in the block, for a letter at its end is not followed by another one
    have hname : (part ++ rest).takeWhile Atom.isLetter <:+: part := by
      refine takeWhile_infix_of_last ?_ fun front letter hpart hletter => hbefore ?_
      · rintro rfl
        exact hlast (by rw [← hbefore']; simp)
      · cases letter with
        | group source rendered => cases hletter
        | char c =>
          rw [← hblock, ← hbefore', hpart, ← List.cons_append, ← List.append_assoc,
            getLast?_sourceOf_concat]
          exact hletter
    rw [List.cons_append, ratioAt?, run_command_cons]
    split
    · rfl
    · rw [Option.bind_some]
      dsimp only
      cases hkind : Ratio.ofCommand? (Atom.sourceOf ((part ++ rest).takeWhile Atom.isLetter)) with
      | none => rfl
      | some kind =>
        refine absurd ?_ (hnames _ (mem_ratioNames hkind))
        rw [← hblock]
        exact Atom.sourceOf_infix (hname.trans hpart)
  · exact ratioAt?_of_ne hatom _

/-! ### Tokens -/

/-- The operand of a script accounts for the commands it is read from. -/
theorem reads_narrow :
    Reads credit Operand.narrowScanner fun operand => credit ++ operand.kinds := by
  intro input
  refine ReadsAt.orElse ?_ fun _ => ReadsAt.orElse ?_ fun hnone => ?_
  · refine Reads.bind reads_idiom (fun symbol => Reads.pure ?_) input
    exact List.append_nil credit
  · refine Reads.bind reads_command (fun name => Reads.pure ?_) input
    rw [Operand.kinds_command]
  · have hcommand := run_command_of_refused (fun _ _ => Option.some_ne_none _) hnone
    refine readsAt_afterBackslash_orElse hcommand (fun c => ?_) (fun rendered => ?_) fun hlone => ?_
    · exact List.append_nil credit
    · exact List.append_nil credit
    · exact readsAt_single hcommand hlone (fun c => List.append_nil credit)
        fun rendered => List.append_nil credit

/-- An operand with a shift accounts for the commands it is read from. -/
theorem reads_scripted :
    Reads credit Token.scripted fun (_, operand) => credit ++ operand.kinds := by
  have hshift : Reads credit Shift.scanner fun _ => credit :=
    ((reads_one (by decide)).bind fun _ => Reads.pure rfl).orElse
      ((reads_one (by decide)).bind fun _ => Reads.pure rfl)
  refine (hshift.bind fun _ => Reads.bind reads_operand fun operand => Reads.pure ?_).orElse
    (Reads.bind reads_operand fun operand => Reads.pure ?_)
  · rfl
  · rfl

/-- The degree of a root is read with the commands that it holds. -/
theorem reads_degree :
    Reads credit Modifier.degree fun atoms => credit ++ (ratios atoms).map RatioCommand.kind := by
  intro input atoms rest hrun
  obtain ⟨rfl, -⟩ := exists_of_degree hrun
  refine ⟨(ratios atoms).map (RatioCommand.before (.char ']' :: rest)), ?_, ?_⟩
  · rw [ratios_cons_of_ne (by decide)]
    exact ratiosFrom_append_cons (by decide) (by decide) false atoms rest
  · rw [List.map_map]
    rfl

/-- The ratios that a modifier accounts for: those of the commands in the degree of a root. -/
def Modifier.kinds (modifier : Modifier) : List Ratio :=
  (ratios modifier.inner).map RatioCommand.kind

/-- A modifier accounts for the commands it is read from. -/
theorem reads_modifier :
    Reads credit Modifier.scanner fun modifier => credit ++ modifier.kinds := by
  refine Reads.bind reads_command fun name => Reads.bind_ofOption fun modifier hmodifier => ?_
  obtain ⟨hname, hdegree⟩ := Modifier.of_ofCommand? hmodifier
  have hnone : credit ++ modifier.kinds = credit ++ (Ratio.ofCommand? name).toList := by
    rw [hname, Modifier.kinds, Modifier.inner_eq, hdegree]
    rfl
  have hspace : ∀ modifier : Modifier, Reads (credit ++ modifier.kinds)
      (do space; return modifier) fun modifier => credit ++ modifier.kinds :=
    fun modifier => Reads.bind reads_space fun _ => Reads.pure rfl
  dsimp only
  split
  · refine Reads.bind (Reads.orElse ?_ (Reads.pure hnone)) hspace
    refine Reads.bind reads_degree fun atoms => Reads.pure ?_
    rw [hname]
    exact (congrArg (· ++ _) (List.append_nil credit)).symm
  · refine Reads.bind (Reads.pure ?_) hspace
    exact hnone

/-- The ratios that a token accounts for: those of the commands in the degree of a root, and of those
that the token stands for itself. -/
def Token.kinds (token : Token) : List Ratio :=
  (ratios token.inner).map RatioCommand.kind ++ token.outcomes.map Outcome.kind

/-- An item accounts for the commands it is read from. -/
theorem reads_itemScanner : Reads [] Token.itemScanner Token.kinds := by
  refine Reads.orElse (Reads.bind reads_modifier fun modifier =>
    Reads.bind reads_scripted fun found => Reads.pure ?_)
    (Reads.bind reads_scripted fun found => Reads.pure ?_)
  · rfl
  · rfl

/-- A ratio accounts for itself and for the commands in its parts. -/
theorem reads_ratioScanner : Reads [] Token.ratioScanner Token.kinds := by
  refine Reads.bind reads_command fun name => Reads.bind_ofOption fun kind hkind => ?_
  refine Reads.orElse (Reads.bind reads_space fun _ => Reads.bind reads_narrow fun upper =>
    Reads.bind reads_space fun _ => Reads.bind reads_narrow fun lower => Reads.pure ?_)
    (Reads.bind reads_space fun _ => Reads.pure ?_)
  · show Token.kinds (.ratio kind upper lower)
      = [] ++ (Ratio.ofCommand? name).toList ++ upper.kinds ++ lower.kinds
    rw [hkind, Token.kinds, Token.outcomes, List.map_cons, List.map_append]
    rfl
  · show [] ++ ((Ratio.ofCommand? name).map _).toList.map Outcome.kind
      = [] ++ (Ratio.ofCommand? name).toList
    rw [hkind]
    rfl

/-- **A token accounts for the commands that it is read from.** -/
theorem reads_token : Reads [] Token.scanner Token.kinds := by
  have hblank : Reads [] (skipWhile1 Atom.isBlank) fun _ => [] :=
    (reads_takeWhile1 rfl).bind fun _ => Reads.pure rfl
  refine Reads.orElse (hblank.bind fun _ => Reads.pure ?_) (Reads.orElse reads_ratioScanner
    (Reads.orElse (Reads.bind reads_idiom fun _ => Reads.pure ?_) reads_itemScanner))
  · rfl
  · rfl

end

/-! ## Sequences -/

/-- A token is read at a place whose commands are among those of the sequence. -/
theorem exists_of_mem_all {atoms : List Atom} {token : Token} (h : token ∈ Token.all atoms) :
    ∃ place rest, Token.scanner.run place = some (token, rest) ∧ ratios place <:+ ratios atoms := by
  fun_induction Token.all atoms with
  | case1 atoms first rest hrun ih =>
    rcases List.mem_cons.mp h with rfl | hmem
    · exact ⟨atoms, rest, hrun, List.suffix_rfl⟩
    · obtain ⟨place, left, hfound, hplace⟩ := ih hmem
      obtain ⟨block, hblock, -⟩ := reads_token atoms first rest hrun
      rw [hblock]
      exact ⟨place, left, hfound, hplace.trans (List.suffix_append block _)⟩
  | case2 atoms hrun => cases h

/-- The commands of a sequence, in the order in which they stand, are accounted for by its tokens. -/
theorem kinds_outcomesUpTo (depth : Nat) (atoms : List Atom) (h : atoms.length < depth) :
    (outcomesUpTo depth atoms).map Outcome.kind = (ratios atoms).map RatioCommand.kind := by
  induction depth generalizing atoms with
  | zero => cases h
  | succ depth ihdepth =>
    -- for the tokens of a part by the recursion that reads them, for what is inside of one by depth
    have htokens : ∀ part : List Atom, part.length ≤ depth →
        ((Token.all part).flatMap fun token => outcomesUpTo depth token.inner ++ token.outcomes).map
          Outcome.kind = (ratios part).map RatioCommand.kind := by
      intro part hpart
      fun_induction Token.all part with
      | case1 part token rest hrun ih =>
        obtain ⟨block, hblock, hkinds⟩ := reads_token part token rest hrun
        have hinner := length_inner_lt hrun
        have hrest := Token.consumes_scanner _ _ _ hrun
        rw [List.flatMap_cons, List.map_append, List.map_append, ih (by omega),
          ihdepth token.inner (by omega), hblock, List.map_append]
        exact congrArg (· ++ _) hkinds
      | case2 part hrun =>
        cases part with
        | nil => rfl
        | cons atom part => exact absurd hrun (run_token_ne_none atom part)
    exact htokens atoms (by omega)

/-- **The commands for ratios of a sequence are what its outcomes are of, in order.** -/
theorem kinds_outcomesIn (atoms : List Atom) :
    (outcomesIn atoms).map Outcome.kind = (ratios atoms).map RatioCommand.kind :=
  kinds_outcomesUpTo _ atoms (Nat.lt_succ_self _)

end WikiText.Formula
