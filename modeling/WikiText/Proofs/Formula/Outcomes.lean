import WikiText.Proofs.Formula.Ratios

/-!
# The account of a formula

Each command for a ratio in a formula is shown as a ratio, or reported, or shown by its name
(`ratios_accounted`). The diagnostics are the reports.

What is rendered are the contents of innermost braces, pass by pass, and at last the flattened formula.
One pass splits the commands of a stage: those in innermost braces are accounted for when the content
is rendered, and the others are the commands of the next stage (`perm_segments`). The induction over
passes (`perm_flatten`) is along `flatten`. The outcomes come in the order of rendering and not in that
of the source, so the account is a permutation.
-/

namespace WikiText.Formula

/-! ## Outcomes and diagnostics -/

/-- An empty sequence has nothing to report. -/
theorem trace_renderFlatUpTo_nil (depth : Nat) : (renderFlatUpTo depth []).trace = [] := by
  cases depth with
  | zero => rfl
  | succ depth =>
    rw [renderFlatUpTo, Token.all_nil]
    rfl

/-- An operand reports nothing of its own. -/
theorem filterMap_report_operand (operand : Operand) :
    operand.outcomes.filterMap Outcome.report? = [] := by
  cases operand with
  | command name =>
    rw [Operand.outcomes]
    cases Ratio.ofCommand? name <;> rfl
  | _ => rfl

/-- A modifier notes only what is noted about the degree of a root. -/
theorem trace_modifier (modifier : Modifier) (shift : Option Shift) (operand : Operand)
    (depth : Nat) :
    (modifier.render (renderFlatUpTo depth) shift operand).trace
      = (renderFlatUpTo depth modifier.inner).trace := by
  have hnil := trace_renderFlatUpTo_nil depth
  cases modifier with
  | root degree =>
    cases degree with
    | none => exact hnil.symm
    | some atoms => exact List.append_nil _
  | _ => exact hnil.symm

/-- A token notes what is noted about the sequence inside of it, and about its own commands. -/
theorem trace_token {input rest : List Atom} {token : Token}
    (h : Token.scanner.run input = some (token, rest)) (depth : Nat) :
    (token.render (renderFlatUpTo depth)).trace
      = (renderFlatUpTo depth token.inner).trace ++ token.outcomes.filterMap Outcome.report? := by
  have hnil := trace_renderFlatUpTo_nil depth
  cases token with
  | blank => exact (congrArg (· ++ []) hnil).symm
  | idiom symbol => exact (congrArg (· ++ []) hnil).symm
  | ratio kind upper lower =>
    have hnone : (Token.ratio kind upper lower).outcomes.filterMap Outcome.report? = [] := by
      rw [Token.outcomes, List.filterMap_cons_none rfl, List.filterMap_append,
        filterMap_report_operand, filterMap_report_operand, List.append_nil]
    rw [hnone]
    exact (congrArg (· ++ []) hnil).symm
  -- only a command for a ratio whose operands are missing is broken
  | broken source =>
    rcases token_cases h with ⟨name, kind, _, -, hkind, hratio⟩ | ⟨-, hother⟩
    · rcases hratio with ⟨_, _, heq⟩ | ⟨heq, -⟩
      · cases heq
      · cases heq
        rw [Token.outcomes_broken hkind]
        exact (congrArg (· ++ [brokenRatio ('\\' :: name)]) hnil).symm
    · rcases hother with heq | ⟨_, heq⟩ | hitem
      · cases heq
      · cases heq
      · rcases item_cases hitem with ⟨_, _, _, _, heq, -⟩ | ⟨_, _, heq, -⟩ <;> cases heq
  | item modifier shift operand =>
    rw [Token.outcomes, filterMap_report_operand, List.append_nil]
    cases modifier with
    | none => exact hnil.symm
    | some modifier => exact trace_modifier modifier shift operand depth

/-- The diagnostics of a sequence are those of its outcomes. -/
theorem trace_renderFlatUpTo (depth : Nat) (atoms : List Atom) :
    (renderFlatUpTo depth atoms).trace = (outcomesUpTo depth atoms).filterMap Outcome.report? := by
  induction depth generalizing atoms with
  | zero => rfl
  | succ depth ih =>
    have htrace : (renderFlatUpTo (depth + 1) atoms).trace
        = (Token.all atoms).flatMap fun token => (token.render (renderFlatUpTo depth)).trace := by
      rw [renderFlatUpTo, Traced.trace_bind, Traced.trace_traverse]
      exact List.append_nil _
    rw [htrace, outcomesUpTo, List.filterMap_flatMap]
    refine List.flatMap_congr fun token htoken => ?_
    obtain ⟨place, rest, hrun, -⟩ := exists_of_mem_all htoken
    rw [trace_token hrun, ih, List.filterMap_append]

/-! ## Source order and rendering order -/

/-- Renders what is between an innermost pair of braces and notes what becomes of its commands. -/
def accounted (content : List Atom) : Traced Outcome Text :=
  ⟨flatText content, outcomesIn content⟩

/-- What becomes of the commands for ratios of a formula, in the order in which it is rendered. -/
def outcomes (formula : Text) : List Outcome :=
  let flat := flatten accounted (Atom.ofText formula)
  flat.trace ++ outcomesIn flat.value

/-- Notes that are made of other notes stay so while a formula is flattened. -/
theorem trace_flatten_filterMap {ε ζ : Type} {render : List Atom → Traced ε Text}
    {render' : List Atom → Traced ζ Text} {f : ζ → Option ε}
    (hvalue : ∀ content, (render content).value = (render' content).value)
    (htrace : ∀ content, (render content).trace = (render' content).trace.filterMap f)
    (atoms : List Atom) : (flatten render atoms).trace = (flatten render' atoms).trace.filterMap f := by
  fun_induction flatten render' atoms with
  | case1 atoms parts hbraced pass flat ih =>
    have hpass : (collapse render parts).trace = pass.trace.filterMap f := by
      simp only [pass, collapse, Traced.trace_traverse, List.filterMap_flatMap]
      refine List.flatMap_congr fun part _ => ?_
      cases part with
      | loose atom => rfl
      | braced content => rw [trace_toAtom_braced, trace_toAtom_braced, htrace]
    rw [flatten, dif_pos hbraced]
    show (collapse render parts).trace ++ (flatten render (collapse render parts).value).trace = _
    rw [hpass, value_collapse_congr hvalue]
    rw [List.filterMap_append]
    exact congrArg _ ih
  | case2 atoms parts hbraced =>
    rw [flatten, dif_neg hbraced]
    rfl

/-- The diagnostics of a formula are those of its outcomes, in order. -/
theorem trace_render (formula : Text) :
    (render formula).trace = (outcomes formula).filterMap Outcome.report? := by
  have hvalue : ∀ content, (renderFlat content).value = (accounted content).value := fun _ => rfl
  have htrace : (render formula).trace = (flatten renderFlat (Atom.ofText formula)).trace
      ++ (renderFlat (flatten renderFlat (Atom.ofText formula)).value).trace := rfl
  rw [htrace, outcomes, List.filterMap_append, value_flatten_congr hvalue,
    trace_flatten_filterMap hvalue fun content => trace_renderFlatUpTo _ content]
  exact congrArg _ (trace_renderFlatUpTo _ _)

/-! ### Commands by passes -/

/-- A command as it is written: its ratio, and the source behind it. -/
def RatioCommand.written (ratio : RatioCommand) : Ratio × Text :=
  (ratio.kind, Atom.sourceOf ratio.after)

/-- The commands between the innermost braces of a sequence, where they stand in it. -/
def commandsInside : List Segment → List RatioCommand
  | [] => []
  | .loose _ :: parts => commandsInside parts
  | .braced content :: parts =>
    (ratios content).map (RatioCommand.before (.char '}' :: parts.flatMap Segment.atoms))
      ++ commandsInside parts

/-- A group has the source of the braces that it is made of. -/
theorem source_become (text : List Atom → Text) (part : Segment) :
    (part.become text).source = Atom.sourceOf part.atoms := by
  cases part with
  | loose atom => exact (List.append_nil _).symm
  | braced content => simp [Segment.become, groupOf, Segment.atoms, Atom.source, Atom.sourceOf_append]

/-- Pairs that become groups have the source of the atoms they stand for. -/
theorem sourceOf_map_become (text : List Atom → Text) (parts : List Segment) :
    Atom.sourceOf (parts.map (Segment.become text))
      = Atom.sourceOf (parts.flatMap Segment.atoms) := by
  induction parts with
  | nil => rfl
  | cons part parts ih =>
    rw [List.map_cons, List.flatMap_cons, Atom.sourceOf_cons, Atom.sourceOf_append, source_become, ih]

/-- A name ends where a pair of braces or its group stands. -/
theorem takeWhile_letters (text : List Atom → Text) (parts : List Segment) :
    (parts.map (Segment.become text)).takeWhile Atom.isLetter
      = (parts.flatMap Segment.atoms).takeWhile Atom.isLetter := by
  induction parts with
  | nil => rfl
  | cons part parts ih =>
    cases part with
    | loose atom =>
      rw [List.flatMap_cons, List.map_cons]
      show (atom :: _).takeWhile _ = (atom :: parts.flatMap Segment.atoms).takeWhile _
      rw [List.takeWhile_cons, List.takeWhile_cons, ih]
    | braced content => rfl

/-- The command at the front is written in the same way if the letters behind it and all of the source
are the same. -/
theorem written_ratioAt? {atoms others : List Atom}
    (hletters : atoms.takeWhile Atom.isLetter = others.takeWhile Atom.isLetter)
    (hsource : Atom.sourceOf atoms = Atom.sourceOf others) (atom : Atom) :
    (ratioAt? (atom :: atoms)).map RatioCommand.written
      = (ratioAt? (atom :: others)).map RatioCommand.written := by
  by_cases hatom : atom = .char '\\'
  -- the names are the same, so what is written behind them is the same too
  · have hrest : Atom.sourceOf (atoms.dropWhile Atom.isLetter)
        = Atom.sourceOf (others.dropWhile Atom.isLetter) := by
      rw [← List.takeWhile_append_dropWhile (p := Atom.isLetter) (l := atoms),
        ← List.takeWhile_append_dropWhile (p := Atom.isLetter) (l := others),
        Atom.sourceOf_append, Atom.sourceOf_append, hletters] at hsource
      exact List.append_cancel_left hsource
    subst hatom
    rw [ratioAt?, ratioAt?, run_command_cons, run_command_cons, hletters]
    split
    · rfl
    · simp only [Option.bind_some, Option.map_map]
      refine Option.map_congr fun kind _ => ?_
      exact congrArg (kind, ·) hrest
  · rw [ratioAt?_of_ne hatom, ratioAt?_of_ne hatom]

/-- **One pass takes the commands between innermost braces out of a formula.** The others are written
as before. -/
theorem perm_segments (text : List Atom → Text) (parts : List Segment) (escaped : Bool) :
    ((ratiosFrom escaped (parts.flatMap Segment.atoms)).map RatioCommand.written).Perm
      ((commandsInside parts).map RatioCommand.written
        ++ (ratiosFrom escaped (parts.map (Segment.become text))).map RatioCommand.written) := by
  induction parts generalizing escaped with
  | nil => exact .refl _
  | cons part parts ih =>
    cases part with
    | loose atom =>
      -- the command that may stand here is a ratio before the pass if and only if it is after it
      have hat := written_ratioAt? (takeWhile_letters text parts) (sourceOf_map_become text parts) atom
      have hfirst : ∀ atoms : List Atom, (ratiosFrom escaped (atom :: atoms)).map RatioCommand.written
          = (if escaped then [] else ((ratioAt? (atom :: atoms)).map RatioCommand.written).toList)
            ++ (ratiosFrom (!escaped && atom = .char '\\') atoms).map RatioCommand.written := by
        intro atoms
        rw [ratiosFrom, List.map_append]
        cases escaped with
        | true => rfl
        | false => cases ratioAt? (atom :: atoms) <;> rfl
      have hstep := (ih (!escaped && atom = .char '\\')).append_left
        (if escaped then [] else ((ratioAt? (atom :: parts.flatMap Segment.atoms)).map
          RatioCommand.written).toList)
      rw [List.flatMap_cons, List.map_cons]
      show ((ratiosFrom escaped (atom :: parts.flatMap Segment.atoms)).map _).Perm
        ((commandsInside parts).map _ ++ (ratiosFrom escaped (atom :: parts.map _)).map _)
      rw [hfirst, hfirst, hat]
      exact hstep.trans (List.perm_append_comm_assoc _ _ _)
    | braced content =>
      have hsource : (Segment.braced content :: parts).flatMap Segment.atoms
          = .char '{' :: (content ++ .char '}' :: parts.flatMap Segment.atoms) := by
        simp [Segment.atoms]
      have hgroup : (Segment.braced content :: parts).map (Segment.become text)
          = groupOf text content :: parts.map (Segment.become text) := rfl
      have hcontent : ratios (content ++ .char '}' :: parts.flatMap Segment.atoms)
          = (ratios content).map (RatioCommand.before (.char '}' :: parts.flatMap Segment.atoms))
            ++ ratios (parts.flatMap Segment.atoms) :=
        ratiosFrom_append_cons (by decide) (by decide) false content _
      rw [hsource, hgroup, ratiosFrom_cons_of_ne (by decide), ratiosFrom_cons_of_ne (by simp [groupOf]),
        hcontent, List.map_append, commandsInside, List.map_append, List.append_assoc]
      exact (ih false).append_left _

/-- What one pass notes is what becomes of the commands between innermost braces. -/
theorem kinds_collapse (parts : List Segment) :
    (collapse accounted parts).trace.map Outcome.kind
      = (commandsInside parts).map RatioCommand.kind := by
  rw [collapse, Traced.trace_traverse]
  induction parts with
  | nil => rfl
  | cons part parts ih =>
    cases part with
    | loose atom => exact ih
    | braced content =>
      have hcontent : (Segment.toAtom accounted (.braced content)).trace = outcomesIn content :=
        trace_toAtom_braced accounted content
      rw [List.flatMap_cons, List.map_append, ih, hcontent, kinds_outcomesIn, commandsInside,
        List.map_append, List.map_map]
      rfl

/-- Flattening a formula accounts for the commands between braces, and leaves the others. -/
theorem perm_flatten (atoms : List Atom) :
    ((ratios atoms).map RatioCommand.kind).Perm
      ((flatten accounted atoms).trace.map Outcome.kind
        ++ (ratios (flatten accounted atoms).value).map RatioCommand.kind) := by
  fun_induction flatten accounted atoms with
  | case1 atoms parts hbraced pass flat ih =>
    -- what one pass does: a command is accounted for in its content or is still there
    have hpass : ((ratios atoms).map RatioCommand.kind).Perm
        (pass.trace.map Outcome.kind ++ (ratios pass.value).map RatioCommand.kind) := by
      have hsegments := (perm_segments flatText parts false).map Prod.fst
      have hvalue : pass.value = parts.map (Segment.become flatText) :=
        value_collapse (fun _ => rfl) parts
      have hatoms : parts.flatMap Segment.atoms = atoms := flatMap_segments atoms
      rw [List.map_append, List.map_map, List.map_map, List.map_map, hatoms, ← hvalue] at hsegments
      rw [show pass.trace.map Outcome.kind = _ from kinds_collapse parts]
      exact hsegments
    refine hpass.trans ?_
    rw [List.map_append, List.append_assoc]
    exact ih.append_left _
  | case2 atoms parts hbraced => exact .refl _

/-- The outcomes of a formula are those of its commands, in another order. -/
theorem perm_outcomes (formula : Text) :
    ((ratios (Atom.ofText formula)).map RatioCommand.kind).Perm
      ((outcomes formula).map Outcome.kind) := by
  rw [outcomes, List.map_append, kinds_outcomesIn]
  exact perm_flatten (Atom.ofText formula)

/-! ## Fractions that are lost -/

/-- Whether a command is shown as a ratio of its operands. -/
def Outcome.isShown : Outcome → Bool
  | shown _ => true
  | _ => false

/-- Whether a command is shown by its name. -/
def Outcome.isNamed : Outcome → Bool
  | named _ => true
  | _ => false

/-- Every outcome is of exactly one of the three kinds. -/
theorem length_outcomes (outcomes : List Outcome) :
    outcomes.length = outcomes.countP Outcome.isShown + (outcomes.filterMap Outcome.report?).length
      + outcomes.countP Outcome.isNamed := by
  induction outcomes with
  | nil => rfl
  | cons outcome outcomes ih =>
    cases outcome <;>
      simp only [List.length_cons, List.countP_cons, List.filterMap_cons, Outcome.isShown,
        Outcome.isNamed, Outcome.report?, Bool.false_eq_true, if_true, if_false, ih] <;>
      omega

/-- The name of a ratio that stands as an operand is shown between spaces. -/
theorem render_ratio_command {name : Text} (h : (Ratio.ofCommand? name).isSome = true) :
    (Operand.command name).render = ' ' :: name ++ [' '] := by
  have hsymbols : ∀ name ∈ ratioNames, symbol? name = none := by decide +kernel
  obtain ⟨kind, hkind⟩ := Option.isSome_iff_exists.mp h
  rw [Operand.render, hsymbols name (mem_ratioNames hkind)]
  rfl

/-- **Every command for a ratio is accounted for.** The commands of a formula are those that it shows as
ratios, those that it reports and those that it shows by their names, and the diagnostics are the
reports. So each of them is shown as a ratio or reported exactly if none is shown by its name. This
happens to the operands of scripts, modifiers and other ratios only. Within one sequence the commands
are accounted for in the order in which they stand. -/
theorem ratios_accounted (formula : Text) :
    ((ratios (Atom.ofText formula)).map RatioCommand.kind).Perm
      ((outcomes formula).map Outcome.kind) ∧
    (render formula).trace = (outcomes formula).filterMap Outcome.report? ∧
    ((ratios (Atom.ofText formula)).length
        = (outcomes formula).countP Outcome.isShown + (render formula).trace.length ↔
      ∀ kind, .named kind ∉ outcomes formula) ∧
    (∀ atoms, (outcomesIn atoms).map Outcome.kind = (ratios atoms).map RatioCommand.kind) ∧
    ∀ name, (Ratio.ofCommand? name).isSome = true →
      (∀ atoms, .item none none (.command name) ∉ Token.all atoms) ∧
        (Operand.command name).render = ' ' :: name ++ [' '] := by
  refine ⟨perm_outcomes formula, trace_render formula, ?_, kinds_outcomesIn, fun name hname => ?_⟩
  · have hlength := (perm_outcomes formula).length_eq
    rw [List.length_map, List.length_map, length_outcomes, ← trace_render] at hlength
    -- the two numbers differ by the commands that are shown by their names
    have hnamed : (outcomes formula).countP Outcome.isNamed = 0 ↔
        ∀ kind, .named kind ∉ outcomes formula := by
      rw [List.countP_eq_zero]
      constructor
      · exact fun h kind hmem => h _ hmem rfl
      · intro h outcome hmem
        cases outcome with
        | named kind => exact absurd hmem (h kind)
        | _ => exact Bool.false_ne_true
    rw [← hnamed]
    omega
  · refine ⟨fun atoms hmem => ?_, render_ratio_command hname⟩
    obtain ⟨place, rest, hrun, -⟩ := exists_of_mem_all hmem
    rw [item_command_none hrun] at hname
    cases hname

/-- A formula with two commands for fractions, of which the second is the operand of a script. -/
def halfShown : Text :=
  "\\frac{a}{b}^\\frac".toList

/-- The second command is shown by its name, so that the first is the only one shown as a ratio, and none is
reported. -/
theorem ratios_accounted_name :
    (Ratio.ofCommand? "frac".toList).isSome = true ∧
      (Operand.command "frac".toList).render = " frac ".toList ∧
      .named .fraction ∈ outcomes halfShown ∧
      (ratios (Atom.ofText halfShown)).length
        ≠ (outcomes halfShown).countP Outcome.isShown + (render halfShown).trace.length := by
  have hfrac : (Ratio.ofCommand? "frac".toList).isSome = true := by decide
  have hnamed : .named .fraction ∈ outcomes halfShown := by decide +kernel
  obtain ⟨-, -, hall, -, hname⟩ := ratios_accounted halfShown
  refine ⟨hfrac, (hname _ hfrac).2, hnamed, fun hlength => ?_⟩
  exact hall.mp hlength _ hnamed

/-- A fraction in a script is shown by its name, and nothing is reported. -/
theorem render_frac_in_script : (ratios (Atom.ofText "^\\frac".toList)).length = 1 ∧
    outcomes "^\\frac".toList = [.named .fraction] ∧
    (render "^\\frac".toList).value = "^( frac )".toList ∧
    (render "^\\frac".toList).trace = [] := by
  decide +kernel

end WikiText.Formula
