import WikiText.Proofs.Formula.IndexedRun
import WikiText.Proofs.Formula.Outcomes
import WikiText.Proofs.Formula.Spacing

/-!
# The amount of white space in a formula

The amount of white space in a formula does not matter, if none stands directly behind a backslash
(`render_respaced`): a formula is rendered to what its squeezed text is rendered to, with the same
diagnostics, and formulas that differ in the amount of white space only are squeezed to the same text.

The tokens of a squeezed sequence are those of the sequence, squeezed, but for white space between them
(`inkTokens_squeeze`), of which nothing is shown. One pass over the braces of a squeezed sequence leaves
what a pass over the sequence leaves, squeezed (`segments_squeeze`, `map_become_squeeze`), for what is
between the braces is shown as the same text. So do all of the passes, by induction on them.
-/

namespace WikiText.Formula

open Text (NoBlankBehind Respaced)
open Unicode (isWhiteSpace)

variable {atoms rest : List Atom} {token : Token}

/-! ## Tokens -/

/-- The tokens of a sequence but for white space. -/
def inkTokens (atoms : List Atom) : List Token :=
  (Token.all atoms).filter (· ≠ .blank)

/-- The first token is kept unless it is a blank. -/
theorem inkTokens_of_some (h : Token.scanner.run atoms = some (token, rest)) :
    inkTokens atoms = (if token = .blank then [] else [token]) ++ inkTokens rest := by
  rw [inkTokens, Token.all_of_some h, List.filter_cons]
  by_cases htoken : token = .blank
  · simp [htoken, inkTokens]
  · simp [htoken, inkTokens]

/-- White space at the front is one token. -/
theorem run_token_blank {atom : Atom} (h : atom.isBlank = true) (rest : List Atom) :
    Token.scanner.run (atom :: rest) = some (.blank, inked (atom :: rest)) := by
  have hskip : (Scanner.skipWhile1 Atom.isBlank).run (atom :: rest)
      = some ((), inked (atom :: rest)) := by
    rw [Scanner.skipWhile1, Scanner.run_bind, Scanner.run_takeWhile1, List.takeWhile_cons_of_pos h,
      if_neg (List.cons_ne_nil _ _)]
    rfl
  rw [Token.scanner, Scanner.run_orElse, Scanner.run_bind, hskip]
  rfl

/-- Blanks in front do not matter. -/
theorem inkTokens_inked (atoms : List Atom) : inkTokens (inked atoms) = inkTokens atoms := by
  cases atoms with
  | nil => rfl
  | cons atom rest =>
    by_cases hatom : atom.isBlank = true
    · rw [inkTokens_of_some (run_token_blank hatom rest)]
      rfl
    · rw [inked, List.dropWhile_cons_of_neg hatom]

/-- **The tokens of a squeezed sequence are those of the sequence, squeezed,** but for white space. -/
theorem inkTokens_squeeze (h : Unescaped atoms) :
    inkTokens (squeeze atoms) = (inkTokens atoms).map Token.squeezed := by
  induction atoms using Token.all.induct with
  | case1 atoms token rest hrun ih =>
    have hrest : Unescaped rest := h.of_infix (Token.scanner.suffix hrun).isInfix
    have hloose := loose_token atoms h
    rw [hrun, Option.map_some, Option.map_eq_some_iff] at hloose
    obtain ⟨⟨token', rest'⟩, hrun', heq⟩ := hloose
    obtain ⟨rfl, hinked⟩ := Prod.mk.inj heq
    -- what the two calls leave differs by white space at its front, and that is no token here
    have hlater : inkTokens rest' = (inkTokens rest).map Token.squeezed := by
      rw [← ih hrest, ← inkTokens_inked, ← inkTokens_inked (squeeze rest)]
      exact congrArg inkTokens hinked
    have hblank : token.squeezed = .blank ↔ token = .blank := by
      cases token <;> simp [Token.squeezed]
    rw [inkTokens_of_some hrun, inkTokens_of_some hrun', hlater, List.map_append]
    congr 1
    show (if token.squeezed = .blank then [] else [token.squeezed]) = _
    simp only [hblank]
    split <;> rfl
  | case2 atoms hrun =>
    cases atoms with
    | nil => simp [squeeze, inkTokens, Token.all_nil]
    | cons atom rest => exact absurd hrun (run_token_ne_none atom rest)

/-! ## Sequences without braces -/

/-- An operand is shown the same with its white space squeezed. -/
theorem Operand.render_squeezed (operand : Operand) : operand.squeezed.render = operand.render := by
  cases operand with
  | char c =>
    by_cases hc : isWhiteSpace c = true
    · have hspace : (char ' ').render = [] := by decide
      rw [squeezed, if_pos hc, hspace, render, hc, Bool.or_true, if_pos rfl]
    · rw [squeezed, if_neg hc]
  | _ => rfl

/-- A token shows what it is squeezed to, if its degree does. -/
theorem Token.render_squeezed {render : List Atom → Traced Diagnostic Text}
    (h : ∀ degree, token.degree? = some degree → render (squeeze degree) = render degree) :
    token.squeezed.render render = token.render render := by
  have hshifted : ∀ shift (operand : Operand), shifted shift operand.squeezed = shifted shift operand :=
    fun shift operand => by cases shift <;> rw [shifted, shifted, Operand.render_squeezed]
  have hmarked : ∀ shift (operand : Operand), marked shift operand.squeezed = marked shift operand :=
    fun shift operand => by rw [marked, marked, Operand.render_squeezed]
  cases token with
  | ratio kind upper lower =>
    rw [Token.squeezed, Token.render, Token.render, Operand.render_squeezed, Operand.render_squeezed]
  | item modifier shift operand =>
    cases modifier with
    | none => exact congrArg pure (hshifted shift operand)
    | some modifier =>
      show (modifier.squeezed).render render shift operand.squeezed = modifier.render render shift operand
      cases modifier with
      | root degree =>
        cases degree with
        | none =>
          show Modifier.render render shift operand.squeezed (.root none) = _
          rw [Modifier.render, Modifier.render, hshifted]
        | some degree =>
          show Modifier.render render shift operand.squeezed (.root (some (squeeze degree))) = _
          rw [Modifier.render, Modifier.render, hshifted, h degree rfl]
      | _ => simp only [Modifier.squeezed, Modifier.render, hshifted, hmarked]
  | _ => rfl

/-- Renders tokens and joins their texts. -/
def renderTokens (tokens : List Token) : Traced Diagnostic Text := do
  let parts ← Traced.traverse (Token.render renderFlat) tokens
  return joinParts none parts

/-- Nothing is shown or reported of white space. -/
theorem renderTokens_filter (tokens : List Token) :
    renderTokens (tokens.filter (· ≠ .blank)) = renderTokens tokens := by
  have hparts : (∀ last, joinParts last ((tokens.filter (· ≠ .blank)).map
        fun token => (token.render renderFlat).value)
      = joinParts last (tokens.map fun token => (token.render renderFlat).value)) ∧
      ((tokens.filter (· ≠ .blank)).flatMap fun token => (token.render renderFlat).trace)
        = tokens.flatMap fun token => (token.render renderFlat).trace := by
    induction tokens with
    | nil => exact ⟨fun _ => rfl, rfl⟩
    | cons token tokens ih =>
      obtain ⟨hvalue, htrace⟩ := ih
      -- an empty text leaves the last character as it is, so the next part is joined as before
      by_cases htoken : token = .blank
      · subst htoken
        exact ⟨hvalue, htrace⟩
      · rw [List.filter_cons_of_pos (by simpa using htoken)]
        refine ⟨fun last => ?_, by rw [List.flatMap_cons, List.flatMap_cons, htrace]⟩
        rw [List.map_cons, List.map_cons]
        cases (token.render renderFlat).value with
        | nil => exact hvalue last
        | cons c part => rw [joinParts, joinParts, hvalue]
  apply Traced.ext
  · rw [renderTokens, renderTokens, Traced.value_bind, Traced.value_bind, Traced.value_traverse,
      Traced.value_traverse]
    exact hparts.1 none
  · rw [renderTokens, renderTokens, Traced.trace_bind, Traced.trace_bind, Traced.trace_traverse,
      Traced.trace_traverse, hparts.2]
    rfl

/-- What is rendered of a sequence are its tokens without blanks. -/
theorem renderFlat_eq_renderTokens (atoms : List Atom) :
    renderFlat atoms = renderTokens (inkTokens atoms) := by
  rw [inkTokens, renderTokens_filter]
  exact renderFlat_eq atoms

/-- A sequence without pairs of braces is rendered the same with its white space squeezed. -/
theorem renderFlat_squeeze (h : Unescaped atoms) : renderFlat (squeeze atoms) = renderFlat atoms := by
  induction hlength : atoms.length using Nat.strong_induction_on generalizing atoms with
  | _ length ih =>
    rw [renderFlat_eq_renderTokens, renderFlat_eq_renderTokens atoms, inkTokens_squeeze h,
      renderTokens, renderTokens, Traced.traverse_map]
    refine congrArg (· >>= _) (Traced.traverse_congr fun token htoken => ?_)
    obtain ⟨place, behind, hplace, hrun⟩ := exists_suffix_of_mem_all (List.mem_of_mem_filter htoken)
    -- a degree is part of the sequence, and shorter
    apply Token.render_squeezed
    intro degree hdegree
    obtain ⟨front, tail, rfl, -⟩ := exists_of_token_degree hrun hdegree
    apply ih degree.length _ (h.of_infix ((infix_bracketed front degree tail).trans hplace.isInfix)) rfl
    have hlonger := hplace.length_le
    simp only [List.length_append, List.length_cons] at hlonger
    omega

/-! ## One pass -/

/-- Whether the brace before a sequence opens an innermost pair of braces with something in it. -/
def Closes (rest : List Atom) : Prop :=
  rest.takeWhile (!·.isBrace) ≠ [] ∧ (rest.dropWhile (!·.isBrace)).head? = some (.char '}')

/-- Squeezing makes no brace and removes none. -/
theorem isBrace_squeezed (atom : Atom) : atom.squeezed.isBrace = atom.isBrace := by
  apply Atom.isCharOf_squeezed_of_forall
  intro c hc
  have hopen : c ≠ '{' := by
    rintro rfl
    cases hc
  have hclose : c ≠ '}' := by
    rintro rfl
    cases hc
  simp [hopen, hclose]

/-- The atoms before the first brace of a squeezed sequence, and those from it on. -/
theorem span_brace_squeeze (atoms : List Atom) :
    (squeeze atoms).takeWhile (!·.isBrace) = squeeze (atoms.takeWhile (!·.isBrace)) ∧
      (squeeze atoms).dropWhile (!·.isBrace) = squeeze (atoms.dropWhile (!·.isBrace)) :=
  span_squeeze (p := (!·.isBrace)) (fun atom => congrArg (! ·) (isBrace_squeezed atom)) atoms

/-- A content without braces has none after squeezing. -/
theorem isBrace_of_mem_squeeze {content : List Atom} (h : ∀ a ∈ content, a.isBrace = false) :
    ∀ a ∈ squeeze content, a.isBrace = false := by
  intro a ha
  have hself : content.takeWhile (!·.isBrace) = content :=
    List.takeWhile_eq_self_iff.mpr fun b hb => by rw [h b hb]; rfl
  rw [← hself, ← (span_brace_squeeze content).1] at ha
  simpa using List.mem_takeWhile_imp ha

/-- Squeezing does not change whether a brace is closed. -/
theorem closes_squeeze (rest : List Atom) : Closes (squeeze rest) ↔ Closes rest := by
  obtain ⟨htake, hdrop⟩ := span_brace_squeeze rest
  rw [Closes, Closes, htake, hdrop, head?_squeeze, Ne, squeeze_eq_nil_iff]
  cases (rest.dropWhile (!·.isBrace)).head? with
  | none => rfl
  | some atom =>
    rw [Option.map_some, Option.some_inj, Option.some_inj, Atom.squeezed_eq_char_iff (by decide)]

/-- A brace that is closed has a content without braces, and a closing brace behind it. -/
theorem Closes.exists (h : Closes rest) :
    ∃ content behind, content ≠ [] ∧ (∀ a ∈ content, a.isBrace = false) ∧
      rest = content ++ .char '}' :: behind := by
  obtain ⟨hne, hhead⟩ := h
  obtain ⟨behind, hbehind⟩ := List.head?_eq_some_iff.mp hhead
  refine ⟨_, behind, hne, fun a ha => ?_, ?_⟩
  · simpa using List.mem_takeWhile_imp ha
  · rw [← hbehind, List.takeWhile_append_dropWhile]

/-- Atoms in front that are no braces are segments by themselves. -/
theorem segments_append {front : List Atom} (h : ∀ a ∈ front, a.isBrace = false) (rest : List Atom) :
    segments (front ++ rest) = front.map .loose ++ segments rest := by
  induction front with
  | nil => rfl
  | cons a front ih =>
    rw [List.cons_append, segments_cons (h a List.mem_cons_self),
      ih fun b hb => h b (List.mem_cons_of_mem a hb)]
    rfl

/-- A pair of braces around a content without braces is one segment. -/
theorem segments_braced {content : List Atom} (hne : content ≠ [])
    (h : ∀ a ∈ content, a.isBrace = false) (behind : List Atom) :
    segments (.char '{' :: (content ++ .char '}' :: behind)) = .braced content :: segments behind :=
  segmentsFrom_closes hne h behind

/-- Atoms that are held back are given back at the next brace, unless it closes a pair. -/
theorem segmentsFrom_unopened {held behind : List Atom}
    (hbrace : ∀ a ∈ behind.head?, a.isBrace = true)
    (hclose : behind.head? = some (.char '}') → held = []) :
    segmentsFrom (some held) behind = Segment.unopened (some held) ++ segments behind := by
  cases behind with
  | nil => exact (List.append_nil _).symm
  | cons a behind =>
    by_cases hopen : a = .char '{'
    · subst hopen
      rfl
    · obtain rfl : a = .char '}' := by
        by_contra hne
        have hbrace := hbrace a rfl
        rw [Atom.isBrace_eq_false hopen hne] at hbrace
        cases hbrace
      rw [hclose rfl]
      rfl

/-- An atom that opens no innermost pair is passed over. -/
theorem segments_loose {atom : Atom} (h : atom = .char '{' → ¬ Closes rest) :
    segments (atom :: rest) = .loose atom :: segments rest := by
  by_cases hopen : atom = .char '{'
  · subst hopen
    have hplain : ∀ a ∈ rest.takeWhile (!·.isBrace), a.isBrace = false := fun a ha => by
      simpa using List.mem_takeWhile_imp ha
    have hbrace : ∀ a ∈ (rest.dropWhile (!·.isBrace)).head?, a.isBrace = true := fun a ha => by
      have hhead := List.head?_dropWhile_not (!·.isBrace) rest
      rw [ha] at hhead
      simpa using hhead
    -- if a closing brace came next, nothing would stand between the two
    have hclose : (rest.dropWhile (!·.isBrace)).head? = some (.char '}') →
        (rest.takeWhile (!·.isBrace)).reverse = [] := fun hhead => by
      by_contra hne
      exact h rfl ⟨mt List.reverse_eq_nil_iff.mpr hne, hhead⟩
    have hwhole := segments_append hplain (rest.dropWhile (!·.isBrace))
    rw [List.takeWhile_append_dropWhile] at hwhole
    calc segments (.char '{' :: rest)
        = segmentsFrom (some [])
            (rest.takeWhile (!·.isBrace) ++ rest.dropWhile (!·.isBrace)) := by
          rw [List.takeWhile_append_dropWhile]
          rfl
      _ = Segment.unopened (some (rest.takeWhile (!·.isBrace)).reverse)
            ++ segments (rest.dropWhile (!·.isBrace)) := by
          rw [segmentsFrom_some_append hplain, List.append_nil, segmentsFrom_unopened hbrace hclose]
      _ = .loose (.char '{') :: segments rest := by
          rw [hwhole, Segment.unopened, List.reverse_reverse]
          rfl
  · by_cases hclose : atom = .char '}'
    · subst hclose
      rfl
    · exact segments_cons (Atom.isBrace_eq_false hopen hclose) rest

/-- Whether a segment is white space. -/
def Segment.isBlank : Segment → Bool
  | loose atom => atom.isBlank
  | braced _ => false

/-- The segments of a squeezed sequence. -/
def squeezeSegments : List Segment → List Segment
  | [] => []
  | .loose atom :: parts =>
    if atom.isBlank && parts.head?.any Segment.isBlank then squeezeSegments parts
    else .loose atom.squeezed :: squeezeSegments parts
  | .braced content :: parts => .braced (squeeze content) :: squeezeSegments parts

/-- The first segment is blank exactly if the first atom is. -/
theorem any_head?_segments (atoms : List Atom) :
    (segments atoms).head?.any Segment.isBlank = atoms.head?.any Atom.isBlank := by
  cases atoms with
  | nil => rfl
  | cons atom rest =>
    by_cases h : atom = .char '{' ∧ Closes rest
    · obtain ⟨rfl, hcloses⟩ := h
      obtain ⟨content, behind, hne, hplain, rfl⟩ := hcloses.exists
      rw [segments_braced hne hplain]
      rfl
    · rw [segments_loose (not_and.mp h)]
      rfl

/-- Squeezing a sequence and cutting it at its innermost pairs of braces may be swapped. -/
theorem segments_squeeze (atoms : List Atom) :
    segments (squeeze atoms) = squeezeSegments (segments atoms) := by
  induction hlength : atoms.length using Nat.strong_induction_on generalizing atoms with
  | _ length ih =>
    cases atoms with
    | nil => rfl
    | cons atom rest =>
      rw [List.length_cons] at hlength
      -- on the length, since behind a braced part the walk goes on after its closing brace
      by_cases h : atom = .char '{' ∧ Closes rest
      · obtain ⟨rfl, hcloses⟩ := h
        obtain ⟨content, behind, hne, hplain, rfl⟩ := hcloses.exists
        have hlength' : behind.length < length := by
          rw [List.length_append, List.length_cons] at hlength
          omega
        have hclose : (Atom.char '}' :: behind).head?.any Atom.isBlank = false := rfl
        rw [segments_braced hne hplain, squeeze_char_cons (by decide), squeeze_append hclose,
          squeeze_char_cons (by decide), segments_braced (mt squeeze_eq_nil_iff.mp hne)
            (isBrace_of_mem_squeeze hplain), squeezeSegments, ih behind.length hlength' behind rfl]
      · have hlater := ih rest.length (by omega) rest rfl
        rw [segments_loose (not_and.mp h), squeezeSegments, any_head?_segments, squeeze]
        split
        · exact hlater
        · rw [segments_loose, hlater]
          rw [closes_squeeze, Atom.squeezed_eq_char_iff (by decide)]
          exact not_and.mp h

section

variable {parts : List Segment}
  (h : ∀ content, .braced content ∈ parts → renderFlat (squeeze content) = renderFlat content)

include h

/-- A pass over a squeezed sequence leaves what a pass over the sequence leaves, squeezed. -/
theorem map_become_squeeze :
    (squeezeSegments parts).map (Segment.become flatText)
      = squeeze (parts.map (Segment.become flatText)) := by
  induction parts with
  | nil => rfl
  | cons part parts ih =>
    have hlater := ih fun content hcontent => h content (List.mem_cons_of_mem part hcontent)
    have hhead : (parts.map (Segment.become flatText)).head?.any Atom.isBlank
        = parts.head?.any Segment.isBlank := by
      cases parts with
      | nil => rfl
      | cons next parts => cases next <;> rfl
    cases part with
    | loose atom =>
      rw [squeezeSegments, List.map_cons, squeeze, hhead]
      show _ = if atom.isBlank && _ then _ else atom.squeezed :: _
      split
      · exact hlater
      · rw [List.map_cons, hlater]
        rfl
    | braced content =>
      have hgroup : groupOf flatText (squeeze content) = (groupOf flatText content).squeezed := by
        rw [groupOf, groupOf, Atom.squeezed, sourceOf_squeeze, flatText, flatText,
          h content List.mem_cons_self]
      rw [squeezeSegments, List.map_cons, List.map_cons, hlater, Segment.become, Segment.become, hgroup,
        squeeze_cons_of_ink rfl]

/-- Squeezing changes none of the reports of a pass. -/
theorem trace_collapse_squeeze :
    (collapse renderFlat (squeezeSegments parts)).trace = (collapse renderFlat parts).trace := by
  rw [collapse, collapse, Traced.trace_traverse, Traced.trace_traverse]
  induction parts with
  | nil => rfl
  | cons part parts ih =>
    have hlater := ih fun content hcontent => h content (List.mem_cons_of_mem part hcontent)
    cases part with
    | loose atom =>
      rw [squeezeSegments]
      split
      · exact hlater
      · exact hlater
    | braced content =>
      rw [squeezeSegments, List.flatMap_cons, List.flatMap_cons, hlater, trace_toAtom_braced,
        trace_toAtom_braced, h content List.mem_cons_self]

end

/-- Squeezing keeps the pairs of braces. -/
theorem any_isBraced_squeeze (parts : List Segment) :
    (squeezeSegments parts).any Segment.isBraced = parts.any Segment.isBraced := by
  induction parts with
  | nil => rfl
  | cons part parts ih =>
    cases part with
    | loose atom =>
      rw [squeezeSegments]
      split
      · rw [ih, List.any_cons, Segment.isBraced, Bool.false_or]
      · rw [List.any_cons, List.any_cons, ih]
        rfl
    | braced content => rfl

/-! ## Whole formulas -/

/-- Passes leave the source as it is. -/
theorem Unescaped.become (h : Unescaped atoms) :
    Unescaped ((segments atoms).map (Segment.become flatText)) := by
  rw [Unescaped, sourceOf_map_become, flatMap_segments]
  exact h

/-- What is between braces is part of the sequence. -/
theorem Unescaped.inside (h : Unescaped atoms) {content : List Atom}
    (hcontent : .braced content ∈ segments atoms) : Unescaped content := by
  have hpart := List.infix_of_mem_flatten (List.mem_map_of_mem (f := Segment.atoms) hcontent)
  rw [← List.flatMap_def, flatMap_segments] at hpart
  have hinner : content <:+: Segment.atoms (.braced content) := ⟨[.char '{'], [.char '}'], rfl⟩
  exact h.of_infix (hinner.trans hpart)

/-- A sequence is rendered the same with its white space squeezed. -/
theorem renderAtoms_squeeze (h : Unescaped atoms) :
    renderAtoms (squeeze atoms) = renderAtoms atoms := by
  induction hlength : atoms.length using Nat.strong_induction_on generalizing atoms with
  | _ length ih =>
    have hany : (segments (squeeze atoms)).any Segment.isBraced
        = (segments atoms).any Segment.isBraced := by
      rw [segments_squeeze, any_isBraced_squeeze]
    by_cases hbraced : (segments atoms).any Segment.isBraced = true
    · have hinside : ∀ content, .braced content ∈ segments atoms →
          renderFlat (squeeze content) = renderFlat content :=
        fun content hcontent => renderFlat_squeeze (h.inside hcontent)
      have hvalue : ∀ parts, (collapse renderFlat parts).value = parts.map (Segment.become flatText) :=
        value_collapse fun _ => rfl
      -- the pass leaves a shorter sequence, with the same source
      have hshorter := length_collapse renderFlat atoms hbraced
      rw [hvalue, hlength] at hshorter
      have hlater := ih _ hshorter h.become rfl
      rw [renderAtoms_of_braced hbraced, renderAtoms_of_braced (hany.trans hbraced), segments_squeeze]
      apply Traced.ext
      · rw [Traced.value_bind, Traced.value_bind, hvalue, hvalue, map_become_squeeze hinside, hlater]
      · rw [Traced.trace_bind, Traced.trace_bind, hvalue, hvalue, map_become_squeeze hinside,
          trace_collapse_squeeze hinside, hlater]
    · rw [renderAtoms_of_not_hasPair, renderAtoms_of_not_hasPair, renderFlat_squeeze h]
      · exact fun hpair => hbraced (hpair.any_isBraced none)
      · exact fun hpair => hbraced (hany ▸ hpair.any_isBraced none)

/-- A formula is rendered the same with its white space squeezed. -/
theorem render_squeeze {formula : Text} (h : NoBlankBehind '\\' formula) :
    render (Text.squeeze isWhiteSpace formula) = render formula := by
  have hsource : Unescaped (Atom.ofText formula) := by
    rw [Unescaped, Atom.sourceOf_ofText]
    exact h
  show renderAtoms (Atom.ofText (Text.squeeze isWhiteSpace formula)) = _
  rw [← squeeze_ofText, renderAtoms_squeeze hsource]
  rfl

/-- **The amount of white space in a formula does not matter.** Where no white space stands directly
behind a backslash, a formula with other white space wherever it has some is rendered to the same text,
and the same diagnostics are noted, in the same order. -/
theorem render_respaced (formula other : Text) (h : NoBlankBehind '\\' formula)
    (hother : Respaced formula other) : render other = render formula := by
  rw [← render_squeeze h, hother.squeeze_eq, render_squeeze]
  exact (hother.noBlankBehind_iff (by decide)).mp h

/-- A fraction that is reported, behind a script of white space. -/
theorem render_respaced_reported :
    render "x^ \\frac \n2".toList = render "x^  \\frac\t2".toList ∧
      (render "x^  \\frac\t2".toList).trace.length = 1 :=
  ⟨render_respaced _ _ (by decide) (by decide), by decide +kernel⟩

end WikiText.Formula
