import WikiText.Proofs.Formula.Diagnostics
import WikiText.Proofs.Formula.IndexedRun

/-!
# Idioms by their source

Some idioms are spelled with braces, and by the time an idiom is looked for, pairs of braces have become
groups. What is recognised depends on the source text alone all the same: at each place of a sequence
that is cut into tokens, the longest spelling that the source begins with there (`idiom_of_source`).

A spelling that is read is the source of the atoms that were read. For the converse, the braces of a
spelling are balanced and none of its pairs is empty. Where no pair of braces is left, such a text at the
front of the source ends where an atom ends (`exists_block`), since the braces of a spelling that stood
there as characters would be a pair. The list of spellings is tried from the longest one on, and what
refuses one of them leaves the shorter ones as they are.
-/

namespace WikiText.Formula

open Scanner
open Atom (sourceOf)

variable {atoms block rest : List Atom} {spelling : String} {symbol : Text}

/-! ## Spellings and source texts -/

/-- A source text begins with an idiom of the given spelling: with the spelling, behind which no letter
stands if it ends in a letter. -/
def BeginsWith (text : Text) (spelling : String) : Prop :=
  spelling.toList <+: text ∧ (spelling.toList.getLast?.any Char.isAlpha = true →
    (text.drop spelling.toList.length).head?.any Char.isAlpha = false)

/-- The spelling of each idiom is balanced, has no empty braces, and names a symbol. -/
theorem idioms_spelled : ∀ spelling ∈ idioms, balanced 0 spelling.toList = true ∧
    Text.occursIn ['{', '}'] spelling.toList = false ∧
    (symbol? (spelling.toList.drop 1)).isSome = true := by
  decide +kernel

/-- Longer spellings stand before shorter ones. -/
theorem idioms_pairwise : idioms.Pairwise fun spelling later =>
    later.toList.length ≤ spelling.toList.length := by
  decide

/-- Two spellings of one length are not both at the front of a text. -/
theorem eq_of_beginsWith {text : Text} {other : String} (h : BeginsWith text spelling)
    (hother : BeginsWith text other) (hlength : spelling.toList.length = other.toList.length) :
    spelling = other := by
  have hshared := List.prefix_of_prefix_length_le h.1 hother.1 hlength.le
  exact String.toList_inj.mp (hshared.eq_of_length hlength)

/-! ## Atoms that spell a text -/

/-- The source of atoms is spelled by them. -/
theorem spellRun_sourceOf (block rest : List Atom) :
    spellRun (sourceOf block) (block ++ rest) = some ((), rest) := by
  induction block with
  | nil => rw [Atom.sourceOf_nil, List.nil_append, spellRun]
  | cons atom block ih =>
    cases atom with
    | char c =>
      show spellRun (c :: sourceOf block) (.char c :: (block ++ rest)) = some ((), rest)
      rw [spellRun, if_pos rfl, ih]
    | group source rendered =>
      have hsource : sourceOf (.group source rendered :: block)
          = '{' :: (source ++ ['}'] ++ sourceOf block) := rfl
      -- a group is spelled as a whole, with its braces
      have hspelled : (Atom.group source []).source = '{' :: source ++ ['}'] := rfl
      have hfront : ('{' :: source ++ ['}']).isPrefixOf
          ('{' :: (source ++ ['}'] ++ sourceOf block)) = true :=
        List.isPrefixOf_iff_prefix.mpr ⟨sourceOf block, rfl⟩
      have hback : ('{' :: (source ++ ['}'] ++ sourceOf block)).drop ('{' :: source ++ ['}']).length
          = sourceOf block :=
        List.drop_left
      rw [hsource, List.cons_append, spellRun, hspelled, if_pos hfront, hback, ih]

/-- Where no pair of braces is left, a balanced text without an empty pair that stands at the front of
the source is that of atoms. -/
theorem exists_block {text after : Text} (hatoms : ∀ atom ∈ atoms, atom.IsBalanced)
    (hpair : ¬ HasPair atoms) (htext : balanced 0 text = true) (hfull : ¬ ['{', '}'] <:+: text)
    (hsource : sourceOf atoms = text ++ after) :
    ∃ block rest, atoms = block ++ rest ∧ sourceOf block = text := by
  induction atoms generalizing text with
  | nil =>
    obtain ⟨rfl, -⟩ := List.append_eq_nil_iff.mp hsource.symm
    exact ⟨[], [], rfl, rfl⟩
  | cons atom atoms ih =>
    have hothers : ∀ other ∈ atoms, other.IsBalanced := fun other hother =>
      hatoms other (List.mem_cons_of_mem atom hother)
    have hflat : ¬ HasPair atoms := fun h => hpair (h.of_part (List.suffix_cons atom atoms).isInfix)
    cases text with
    | nil => exact ⟨[], atom :: atoms, rfl, rfl⟩
    | cons c text =>
      by_cases hopen : c = '{'
      · -- the brace and the one that closes it are those of a group
        subst hopen
        obtain ⟨inside, later, rfl, hinside, hlater⟩ := exists_close htext
        have hargument : Full inside := by
          refine ⟨?_, hinside, Text.occursIn_eq_false_iff.mpr fun hempty => hfull ?_⟩
          · rintro rfl
            exact hfull ⟨[], later, rfl⟩
          · exact hempty.trans ⟨['{'], '}' :: later, rfl⟩
        have hbraces : sourceOf (atom :: atoms) = inBraces inside ++ (later ++ after) := by
          rw [hsource]
          simp [inBraces]
        obtain ⟨rendered, others, heq, hsource⟩ := exists_group_cons hatoms hpair hargument hbraces
        obtain ⟨rfl, rfl⟩ := List.cons_eq_cons.mp heq
        have hrest : ¬ ['{', '}'] <:+: later := fun hempty =>
          hfull (hempty.trans ⟨'{' :: inside ++ ['}'], [], by simp⟩)
        obtain ⟨block, rest, rfl, rfl⟩ := ih hothers hflat hlater hrest hsource
        exact ⟨.group inside rendered :: block, rest, rfl, by simp [Atom.source]⟩
      -- any other character is an atom by itself, since a group begins with a brace
      · cases atom with
        | group source rendered =>
          obtain ⟨heq, -⟩ := List.cons_eq_cons.mp hsource
          exact absurd heq.symm hopen
        | char d =>
          obtain ⟨rfl, hlater⟩ := List.cons_eq_cons.mp hsource
          rw [balanced, if_neg hopen] at htext
          split at htext
          · cases htext
          · have hrest : ¬ ['{', '}'] <:+: text := fun hempty =>
              hfull (hempty.trans (List.suffix_cons d text).isInfix)
            obtain ⟨block, rest, rfl, rfl⟩ := ih hothers hflat htext hrest hlater
            exact ⟨.char d :: block, rest, rfl, rfl⟩

/-! ## One place -/

/-- The symbol of the idiom at a place of a sequence, and the place behind it. -/
def idiomAt? (atoms : List Atom) (place : ℕ) : Option (Text × ℕ) :=
  (idiom.run (atoms.drop place)).map fun (symbol, rest) => (symbol, atoms.length - rest.length)

/-- A sequence begins with a letter exactly if its source does. -/
theorem any_isLetter_head? (atoms : List Atom) :
    atoms.head?.any Atom.isLetter = (sourceOf atoms).head?.any Char.isAlpha :=
  (Atom.any_head?_sourceOf (by decide) atoms).symm

/-- Atoms whose source is a spelling are read as its symbol, unless they do not end its last name. -/
theorem run_idiomOf (hblock : sourceOf block = spelling.toList)
    (hrest : spelling.toList.getLast?.any Char.isAlpha = true → rest.head?.any Atom.isLetter = false)
    (hsymbol : symbol? (spelling.toList.drop 1) = some symbol) :
    (idiomOf spelling).run (block ++ rest) = some (symbol, rest) := by
  have hspell : (spell spelling.toList).run (block ++ rest) = some ((), rest) := by
    rw [← hblock]
    exact spellRun_sourceOf block rest
  have hread : (ofOption (symbol? (spelling.toList.drop 1)) : Scanner Atom Text).run rest
      = some (symbol, rest) :=
    run_ofOption_eq_some.mpr ⟨hsymbol, rfl⟩
  rw [idiomOf, run_bind_of_eq_some hspell]
  split
  · next hletter =>
    have hbefore : (notBefore Atom.isLetter).run rest = some ((), rest) := by
      simp only [notBefore, hrest hletter, Bool.false_eq_true, if_false]
    rw [run_bind_of_eq_some hbefore, hread]
  · exact hread

/-- What is read as an idiom of a spelling has that spelling as its source, and the symbol is the one in
the table. -/
theorem beginsWith_of_idiomOf (hspelling : spelling ∈ idioms)
    (h : (idiomOf spelling).run atoms = some (symbol, rest)) :
    BeginsWith (sourceOf atoms) spelling ∧ symbol? (spelling.toList.drop 1) = some symbol ∧
      ∃ block, atoms = block ++ rest ∧ sourceOf block = spelling.toList := by
  obtain ⟨block, rfl, hblock, hrest⟩ := exists_of_idiomOf h
  obtain ⟨found, hfound⟩ := Option.isSome_iff_exists.mp (idioms_spelled spelling hspelling).2.2
  have hread := run_idiomOf hblock hrest hfound
  rw [h] at hread
  cases hread
  refine ⟨⟨?_, fun hletter => ?_⟩, hfound, block, rfl, hblock⟩
  · rw [Atom.sourceOf_append, hblock]
    exact List.prefix_append _ _
  · rw [Atom.sourceOf_append, hblock, List.drop_left, ← any_isLetter_head?, hrest hletter]

/-- Where no pair of braces is left, the idiom that the source begins with is read. -/
theorem idiomOf_ne_none (hatoms : ∀ atom ∈ atoms, atom.IsBalanced) (hpair : ¬ HasPair atoms)
    (hspelling : spelling ∈ idioms) (h : BeginsWith (sourceOf atoms) spelling) :
    (idiomOf spelling).run atoms ≠ none := by
  obtain ⟨⟨after, hsource⟩, hletter⟩ := h
  obtain ⟨hbalanced, hfull, hsymbol⟩ := idioms_spelled spelling hspelling
  obtain ⟨symbol, hsymbol⟩ := Option.isSome_iff_exists.mp hsymbol
  obtain ⟨block, rest, rfl, hblock⟩ := exists_block hatoms hpair hbalanced
    (Text.occursIn_eq_false_iff.mp hfull) hsource.symm
  have hrest : spelling.toList.getLast?.any Char.isAlpha = true →
      rest.head?.any Atom.isLetter = false := by
    intro hends
    rw [any_isLetter_head?, ← hletter hends, Atom.sourceOf_append, hblock, List.drop_left]
  rw [run_idiomOf hblock hrest hsymbol]
  exact Option.some_ne_none _

/-- The idiom that is read is the first one in the list that could be, and so the longest. -/
theorem exists_of_idiom (h : idiom.run atoms = some (symbol, rest)) :
    ∃ spelling ∈ idioms, (idiomOf spelling).run atoms = some (symbol, rest) ∧
      ∀ other ∈ idioms, (idiomOf other).run atoms ≠ none →
        other.toList.length ≤ spelling.toList.length := by
  obtain ⟨front, scanner, back, hlist, hfront, hrun⟩ := exists_of_firstOf h
  obtain ⟨before, later, hidioms, rfl, hlater⟩ := List.map_eq_append_iff.mp hlist
  obtain ⟨spelling, after, rfl, rfl, -⟩ := List.map_eq_cons_iff.mp hlater
  refine ⟨spelling, by rw [hidioms]; simp, hrun, fun other hother hread => ?_⟩
  have hsorted := idioms_pairwise
  rw [hidioms, List.pairwise_append, List.pairwise_cons] at hsorted
  rw [hidioms, List.mem_append, List.mem_cons] at hother
  rcases hother with hbefore | rfl | hafter
  · exact absurd (hfront _ (List.mem_map_of_mem hbefore)) hread
  · exact le_rfl
  · exact hsorted.2.1.1 other hafter

/-- Where no pair of braces is left, an idiom is read at a place if the source begins with one there. It
is the longest of those, and the atoms that are read have its spelling as their source. -/
theorem idiomAt?_spec (hatoms : ∀ atom ∈ atoms, atom.IsBalanced) (hpair : ¬ HasPair atoms)
    (place : ℕ) :
    ((idiomAt? atoms place).isSome = true ↔
      ∃ spelling ∈ idioms, BeginsWith (sourceOf (atoms.drop place)) spelling) ∧
    ∀ symbol stop, idiomAt? atoms place = some (symbol, stop) →
      ∃ spelling ∈ idioms, BeginsWith (sourceOf (atoms.drop place)) spelling ∧
        (∀ other ∈ idioms, BeginsWith (sourceOf (atoms.drop place)) other → other ≠ spelling →
          other.toList.length < spelling.toList.length) ∧
        symbol? (spelling.toList.drop 1) = some symbol ∧
        sourceOf (atoms.extract place stop) = spelling.toList ∧ stop ≤ atoms.length := by
  have hback : atoms.drop place <:+ atoms := List.drop_suffix place atoms
  have hread : ∀ spelling ∈ idioms, BeginsWith (sourceOf (atoms.drop place)) spelling →
      (idiomOf spelling).run (atoms.drop place) ≠ none :=
    fun spelling => idiomOf_ne_none (fun atom hatom => hatoms atom (hback.subset hatom))
      (fun h => hpair (h.of_part hback.isInfix))
  refine ⟨⟨fun hsome => ?_, fun ⟨spelling, hspelling, hbegins⟩ => ?_⟩, fun symbol stop hat => ?_⟩
  · rw [idiomAt?, Option.isSome_map, Option.isSome_iff_exists] at hsome
    obtain ⟨⟨symbol, rest⟩, hidiom⟩ := hsome
    obtain ⟨spelling, hspelling, hrun, -⟩ := exists_of_idiom hidiom
    exact ⟨spelling, hspelling, (beginsWith_of_idiomOf hspelling hrun).1⟩
  · rw [idiomAt?, Option.isSome_map, Option.isSome_iff_ne_none]
    exact run_firstOf_ne_none (List.mem_map_of_mem hspelling) (hread spelling hspelling hbegins)
  · obtain ⟨⟨_, rest⟩, hidiom, heq⟩ := Option.map_eq_some_iff.mp hat
    cases heq
    obtain ⟨spelling, hspelling, hrun, hlongest⟩ := exists_of_idiom hidiom
    obtain ⟨hbegins, hsymbol, block, hblock, hsource⟩ := beginsWith_of_idiomOf hspelling hrun
    refine ⟨spelling, hspelling, hbegins, fun other hother hbegins' hne => ?_, hsymbol, ?_, by omega⟩
    -- two spellings of one length that the source begins with are the same
    · refine lt_of_le_of_ne (hlongest other hother (hread other hother hbegins')) fun hlength => ?_
      exact hne (eq_of_beginsWith hbegins' hbegins hlength)
    · -- the block is what stands from the place on, up to the rest
      have hlength : atoms.length - rest.length - place = block.length := by
        have htotal := congrArg List.length hblock
        rw [List.length_drop, List.length_append] at htotal
        omega
      rw [List.extract_eq_take_drop, hblock, hlength, List.take_left, hsource]

/-! ## Sequences of a formula -/

/-- Grown atoms are balanced and no braces. -/
theorem Grown.isBalanced {text : List Atom → Text} (h : Grown text atoms) :
    ∀ atom ∈ atoms, atom.IsBalanced ∧ atom.isBrace = false := by
  induction h with
  | nil => exact fun atom hatom => (List.not_mem_nil hatom).elim
  | char hc rest ih => exact List.forall_mem_cons.mpr ⟨⟨trivial, hc⟩, ih⟩
  | group hne inside rest ihinside ih =>
    exact List.forall_mem_cons.mpr ⟨⟨balanced_sourceOf ihinside, rfl⟩, ih⟩

/-- The sources in the table of a formula have balanced braces. -/
theorem balanced_of_mem_groupTable {formula : Text} {entry : GroupEntry}
    (h : entry ∈ groupTable formula) : balanced 0 entry.source = true := by
  have hatoms : ∀ atom ∈ Atom.ofText formula, IsGrown flatText atom := by
    intro atom hatom
    obtain ⟨c, -, rfl⟩ := List.mem_map.mp hatom
    exact .inl ⟨c, rfl⟩
  obtain ⟨content, hcontent, rfl⟩ := grown_of_mem_trace hatoms h
  exact balanced_sourceOf hcontent.isBalanced

variable {columns : Columns} {slots : List Slot}

/-- A sequence whose indices have entries in both columns names atoms. -/
theorem exists_atoms? (heven : columns.Even) (h : ∀ slot ∈ slots, ∀ index,
    slot.shape = .group index → index < columns.sources.length) :
    ∃ atoms, atoms? columns slots = some atoms := by
  induction slots with
  | nil => exact ⟨[], rfl⟩
  | cons slot slots ih =>
    obtain ⟨hslot, hslots⟩ := List.forall_mem_cons.mp h
    obtain ⟨atoms, hatoms⟩ := ih hslots
    obtain ⟨atom, hatom⟩ : ∃ atom, slot.atom? columns = some atom := by
      unfold Slot.atom?
      split
      · exact ⟨_, rfl⟩
      · next index hshape =>
        have hsource := hslot index hshape
        have hrendering : index < columns.renderings.length := heven ▸ hsource
        rw [List.getElem?_eq_getElem hsource, List.getElem?_eq_getElem hrendering]
        exact ⟨_, rfl⟩
    exact ⟨atom :: atoms, by rw [atoms?, hatom, hatoms]; rfl⟩

/-- The atoms from some place on are those of the slots from there on. -/
theorem atoms?_drop (h : atoms? columns slots = some atoms) (place : ℕ) :
    atoms? columns (slots.drop place) = some (atoms.drop place) := by
  induction place generalizing slots atoms with
  | zero => exact h
  | succ place ih =>
    cases atoms with
    | nil =>
      rw [eq_nil_of_atoms? h]
      rfl
    | cons atom atoms =>
      obtain ⟨slot, rest, rfl, -, hrest⟩ := exists_of_atoms?_cons h
      exact ih hrest

/-- The source of a group is the entry of the table that its index names. -/
theorem mem_sources_of_atoms? (h : atoms? columns slots = some atoms) {source rendered : Text}
    (hmem : .group source rendered ∈ atoms) : source ∈ columns.sources := by
  induction atoms generalizing slots with
  | nil => cases hmem
  | cons atom atoms ih =>
    obtain ⟨slot, rest, rfl, hnamed, hrest⟩ := exists_of_atoms?_cons h
    rcases List.mem_cons.mp hmem with rfl | hmem
    · unfold Slot.atom? at hnamed
      split at hnamed
      · cases hnamed
      · obtain ⟨found, hfound, hrendered⟩ := Option.bind_eq_some_iff.mp hnamed
        obtain ⟨_, -, heq⟩ := Option.bind_eq_some_iff.mp hrendered
        cases heq
        exact List.mem_of_getElem? hfound
    · exact ih hrest hmem

/-- Where no positions of braces are left to be cut out, no pair of braces is left. -/
theorem not_hasPair_of_spans (h : atoms? columns slots = some atoms) (hspans : spans slots = []) :
    ¬ HasPair atoms := by
  intro hpair
  rw [spans_eq h, spansOf_eq_nil_iff] at hspans
  have hbraced := hpair.any_isBraced none
  rw [segments] at hspans
  rw [hspans] at hbraced
  cases hbraced

/-- **Idioms depend on the source text only.** A formula is rendered in sequences that are cut into
tokens where nothing is left to be collapsed of them, the whole formula among them. At each place of
such a sequence an idiom is read if and only if the source from there on begins with a spelling and, if
that ends in a letter, does not go on with one. It is the longest of those spellings, and the atoms that
are read spell it out. -/
theorem idiom_of_source (formula : Text) :
    ∃ after, renderIndexed formula = some ((render formula).value, after) ∧
      (∃ point ∈ after.points, spans point.slots = [] ∧
        rawText point.columns point.slots = some formula) ∧
      ∀ point ∈ after.points, spans point.slots = [] →
        ∃ atoms, atoms? point.columns point.slots = some atoms ∧ ∀ place,
          rawText point.columns (point.slots.drop place) = some (sourceOf (atoms.drop place)) ∧
          ((idiomAt? atoms place).isSome = true ↔
            ∃ spelling ∈ idioms, BeginsWith (sourceOf (atoms.drop place)) spelling) ∧
          ∀ symbol stop, idiomAt? atoms place = some (symbol, stop) →
            ∃ spelling ∈ idioms, BeginsWith (sourceOf (atoms.drop place)) spelling ∧
              (∀ other ∈ idioms, BeginsWith (sourceOf (atoms.drop place)) other → other ≠ spelling →
                other.toList.length < spelling.toList.length) ∧
              symbol? (spelling.toList.drop 1) = some symbol ∧
              sourceOf (atoms.extract place stop) = spelling.toList ∧ stop ≤ atoms.length := by
  obtain ⟨after, hrun, hgoes, whole, hwhole, hstart, hstop, hflat⟩ := renderIndexed_spec formula
  obtain ⟨points, hpoints, -, hsound⟩ := hgoes.points
  obtain rfl : after.points = points := hpoints
  refine ⟨after, hrun, ⟨whole, hwhole, hflat, ?_⟩, fun point hpoint hspans => ?_⟩
  · rw [(hsound whole hwhole).1.raw, hstart, hstop]
    simp [List.extract_eq_take_drop]
  · obtain ⟨hhere, -, hextends⟩ := hsound point hpoint
    obtain ⟨atoms, hatoms⟩ := exists_atoms? hhere.even hhere.index_lt
    -- the sources of groups are those in the table, and these are balanced
    have hbalanced : ∀ atom ∈ atoms, atom.IsBalanced := by
      intro atom hatom
      cases atom with
      | char c => trivial
      | group source rendered =>
        have hsource := hextends.sources.subset (mem_sources_of_atoms? hatoms hatom)
        rw [hgoes.columns] at hsource
        obtain ⟨entry, hentry, rfl⟩ := List.mem_map.mp hsource
        exact balanced_of_mem_groupTable hentry
    refine ⟨atoms, hatoms, fun place => ⟨rawText_of_atoms? (atoms?_drop hatoms place), ?_⟩⟩
    exact idiomAt?_spec hbalanced (not_hasPair_of_spans hatoms hspans) place

end WikiText.Formula
