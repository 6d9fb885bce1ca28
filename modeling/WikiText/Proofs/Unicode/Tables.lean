import Mathlib.Tactic.ByContra
import WikiText.Unicode.Normalization
import WikiText.Unicode.WhiteSpace

/-!
# What the tables of normalization say together

The tables of decomposition and composition fit each other: what a character decomposes into does not
decompose any further (`decomposition_of_mem_decomposition`), and a composite decomposes like the two
characters that it is composed of (`decomposition_of_compose`). The syllables of Hangul, which have no
table, do so by arithmetic.

Most characters take no part in normalization at all. `Apart` collects what that means, and
`Apart.of_uninvolved` reads it off the tables.

Each fact of this kind is about thousands of entries. A set of code points is written as the bits of
one number for that (`mask`), so that two sets are found disjoint by one operation on numbers.
-/

namespace WikiText.Unicode

/-! ## Sets of code points as numbers -/

/-- The number whose bits are the given code points. -/
def mask (codes : List Nat) : Nat :=
  codes.foldr (fun n bits => 1 <<< n ||| bits) 0

/-- The bits of a set are its code points. -/
theorem testBit_mask (codes : List Nat) (n : Nat) : (mask codes).testBit n = decide (n ∈ codes) := by
  induction codes with
  | nil => simp [mask]
  | cons m codes ih =>
    have hstep : mask (m :: codes) = 1 <<< m ||| mask codes := rfl
    rw [hstep, Nat.one_shiftLeft, Nat.testBit_or, Nat.testBit_two_pow, ih]
    simp [eq_comm]

/-- Sets whose numbers have no bit in common are disjoint. -/
theorem notMem_of_mask {codes others : List Nat} (h : mask codes &&& mask others = 0) {n : Nat}
    (hn : n ∈ codes) : n ∉ others := by
  intro hmem
  have hbit := congrArg (·.testBit n) h
  simp [testBit_mask, hn, hmem] at hbit

/-! ## Tables of decompositions -/

/-- The entries of all tables of decompositions. -/
def entries : List (Nat × List Nat) :=
  latinDecompositions ++ greekDecompositions ++ southernDecompositions ++ extendedDecompositions
    ++ symbolDecompositions ++ compatibleDecompositions ++ supplementaryDecompositions

/-- The code points that a table decomposes. -/
def decomposable : List Nat :=
  entries.map Prod.fst

/-- The code points that a table decomposes others into. -/
def components : List Nat :=
  entries.flatMap Prod.snd

/-- The consonants and vowels that the syllables of Hangul decompose into. -/
def jamo : List Nat :=
  List.range' 0x1100 0x100

/-- The code points that compose, and what they compose to. -/
def composing : List Nat :=
  composites.flatMap fun entry => entry.1 :: entry.2.flatMap fun pair => [pair.1, pair.2]

/-- The code points of white space. -/
def blanks : List Nat :=
  whiteSpace.flatMap fun (low, high) => List.range' low (high + 1 - low)

/-- Signs that no pass of normalization knows: brackets, the ellipsis, and the marks of direction,
zero-width characters and the byte order mark, which are invisible. -/
def signs : List Char :=
  ['[', ']', '…', '\u200e', '\u200f', '\u200b', '\u200d', '\u200c', '\ufeff']

/-- The code points of signs and of white space but for the four that are written as each other. -/
def uninvolved : List Nat :=
  blanks.filter (fun n => n < 0x2000 || 0x2003 < n) ++ signs.map Char.toNat

/-- The code points that a table decomposes others than the two of white space into. -/
def inkComponents : List Nat :=
  (entries.filter fun entry => entry.1 < 0x2000 || 0x2001 < entry.1).flatMap Prod.snd

/-- The sets that have no code point in common. They are compared in one computation, so that the
number of each table is found once. -/
theorem disjoint_tables :
    mask components &&& mask decomposable = 0 ∧ mask jamo &&& mask decomposable = 0 ∧
      mask uninvolved &&& mask decomposable = 0 ∧ mask uninvolved &&& mask components = 0 ∧
      mask uninvolved &&& mask composing = 0 ∧ mask blanks &&& mask composing = 0 ∧
      mask blanks &&& mask inkComponents = 0 := by
  decide +kernel

/-- What is found in a table is in it. -/
theorem mem_of_lookup {α β : Type} [BEq α] [LawfulBEq α] {table : List (α × β)} {key : α} {value : β}
    (h : table.lookup key = some value) : (key, value) ∈ table := by
  obtain ⟨before, after, rfl, -⟩ := List.lookup_eq_some_iff.mp h
  simp

/-- What is found near a code point is in one of the tables. -/
theorem mem_entries_of_lookup {n : Nat} {parts : List Nat}
    (h : (decompositionsNear n).lookup n = some parts) : (n, parts) ∈ entries := by
  have hmem := mem_of_lookup h
  rw [decompositionsNear] at hmem
  simp only [entries, List.mem_append]
  split at hmem
  · cases hmem
  · split at hmem
    · simp [hmem]
    · split at hmem
      · simp [hmem]
      · split at hmem
        · simp [hmem]
        · split at hmem
          · simp [hmem]
          · split at hmem
            · simp [hmem]
            · split at hmem
              · cases hmem
              · split at hmem
                · simp [hmem]
                · simp [hmem]

/-- Nothing is found for a code point that no table decomposes. -/
theorem lookup_eq_none_of_notMem {n : Nat} (h : n ∉ decomposable) :
    (decompositionsNear n).lookup n = none := by
  cases hlookup : (decompositionsNear n).lookup n with
  | none => rfl
  | some parts =>
    exact absurd (List.mem_map.mpr ⟨(n, parts), mem_entries_of_lookup hlookup, rfl⟩) h

/-! ## Decomposition -/

/-- The code points that a code point decomposes into. -/
def decomposed (n : Nat) : List Nat :=
  ((decompositionsNear n).lookup n).getD ((Hangul.decompose? n).getD [n])

/-- A character decomposes as its code point does. -/
theorem decomposition_eq (c : Char) : decomposition c = (decomposed c.toNat).map Char.ofNat := by
  rw [decomposition, decomposed]
  cases (decompositionsNear c.toNat).lookup c.toNat with
  | some parts => rfl
  | none =>
    cases Hangul.decompose? c.toNat with
    | some parts => rfl
    | none => simp

/-- Any other code point stands for itself, if it is no syllable. -/
theorem decomposed_of_notMem {n : Nat} (h : n ∉ decomposable)
    (h' : Hangul.decompose? n = none) : decomposed n = [n] := by
  rw [decomposed, lookup_eq_none_of_notMem h, h']
  rfl

/-- Outside of the syllables there is none. -/
theorem hangul_of_notMem {n : Nat} (h : n < 0xAC00 ∨ 0xD7A4 ≤ n) : Hangul.decompose? n = none := by
  have hcount : Hangul.syllableCount = 11172 := rfl
  rw [Hangul.decompose?, if_neg]
  rw [hcount, Bool.and_eq_true, decide_eq_true_eq, decide_eq_true_eq, Hangul.syllableBase]
  omega

/-- A syllable decomposes into its consonants and its vowel. -/
theorem mem_jamo_of_hangul {n : Nat} {parts : List Nat} (h : Hangul.decompose? n = some parts) :
    ∀ p ∈ parts, p ∈ jamo := by
  have hcount : Hangul.syllableCount = 11172 := rfl
  unfold Hangul.decompose? at h
  split at h
  · next hin =>
    rw [hcount, Bool.and_eq_true, decide_eq_true_eq, decide_eq_true_eq] at hin
    unfold Hangul.syllableBase at h hin
    unfold Hangul.leadBase Hangul.vowelBase Hangul.trailBase Hangul.vowelCount Hangul.trailCount at h
    have hparts : ∀ p ∈ [0x1100 + (n - 0xAC00) / (21 * 28), 0x1161 + (n - 0xAC00) % (21 * 28) / 28,
        0x11A7 + (n - 0xAC00) % 28], p ∈ jamo := by
      intro p hp
      simp only [List.mem_cons, List.not_mem_nil, or_false] at hp
      rw [jamo, List.mem_range'_1]
      omega
    rw [← Option.some.inj h]
    intro p hp
    split at hp
    · exact hparts p (List.mem_append_left [_] hp)
    · exact hparts p hp
  · cases h

/-- The code points of characters that are no syllables. -/
def isBesideSyllables (n : Nat) : Bool :=
  n < 0xAC00 || (0xDFFF < n && n < 0x110000)

/-- A valid code point is that of its character. -/
theorem toNat_ofNat {n : Nat} (h : n.isValidChar) : (Char.ofNat n).toNat = n := by
  rw [Char.ofNat, dif_pos h]
  rfl

/-- A code point beside the syllables is that of its character. -/
theorem toNat_ofNat_of_beside {n : Nat} (h : isBesideSyllables n = true) :
    (Char.ofNat n).toNat = n := by
  refine toNat_ofNat ?_
  simp only [isBesideSyllables, Bool.or_eq_true, Bool.and_eq_true, decide_eq_true_eq] at h
  rw [Nat.isValidChar]
  omega

/-- A code point beside the syllables is no syllable. -/
theorem hangul_of_beside {n : Nat} (h : isBesideSyllables n = true) : Hangul.decompose? n = none := by
  simp only [isBesideSyllables, Bool.or_eq_true, Bool.and_eq_true, decide_eq_true_eq] at h
  exact hangul_of_notMem (by omega)

/-- Every character decomposes into something. -/
theorem decomposed_ne_nil (n : Nat) : decomposed n ≠ [] := by
  -- one evaluation over the table, the syllables by their arithmetic
  have hall : (entries.all fun entry => !entry.2.isEmpty) = true := by decide +kernel
  rw [decomposed]
  cases hlookup : (decompositionsNear n).lookup n with
  | some parts =>
    have hentry := List.all_eq_true.mp hall _ (mem_entries_of_lookup hlookup)
    simpa using hentry
  | none =>
    cases hhangul : Hangul.decompose? n with
    | some parts =>
      unfold Hangul.decompose? at hhangul
      split at hhangul
      · rw [Option.getD_none, Option.getD_some, ← Option.some.inj hhangul]
        split
        · exact List.cons_ne_nil _ _
        · exact List.cons_ne_nil _ _
      · cases hhangul
    | none => exact List.cons_ne_nil _ _

/-- Every character decomposes into at least one. -/
theorem decomposition_ne_nil (c : Char) : decomposition c ≠ [] := by
  rw [decomposition_eq]
  simpa using decomposed_ne_nil c.toNat

/-- What decomposition gives is beside the syllables. -/
theorem beside_of_mem {n : Nat} (h : n ∈ components ++ jamo) : isBesideSyllables n = true := by
  have hall : (components ++ jamo).all isBesideSyllables = true := by decide +kernel
  exact List.all_eq_true.mp hall n h

/-- What a table decomposes others into is in no table itself, and neither are the parts of
syllables. -/
theorem decomposed_of_mem {n : Nat} (h : n ∈ components ++ jamo) : decomposed n = [n] := by
  obtain ⟨hcomponents, hjamo, -⟩ := disjoint_tables
  refine decomposed_of_notMem ?_ (hangul_of_beside (beside_of_mem h))
  rcases List.mem_append.mp h with hmem | hmem
  · exact notMem_of_mask hcomponents hmem
  · exact notMem_of_mask hjamo hmem

/-- A code point decomposes by a table, or as a syllable, or not at all. -/
theorem decomposed_cases (n : Nat) :
    (n, decomposed n) ∈ entries ∨ (∀ p ∈ decomposed n, p ∈ jamo) ∨ decomposed n = [n] := by
  rw [decomposed]
  cases hlookup : (decompositionsNear n).lookup n with
  | some parts => exact .inl (mem_entries_of_lookup hlookup)
  | none =>
    cases hhangul : Hangul.decompose? n with
    | some parts => exact .inr (.inl (mem_jamo_of_hangul hhangul))
    | none => exact .inr (.inr rfl)

/-- The parts of a code point that decomposes decompose no further. -/
theorem mem_or_decomposed_eq (n : Nat) :
    (∀ p ∈ decomposed n, p ∈ components ++ jamo) ∨ decomposed n = [n] := by
  rcases decomposed_cases n with hentry | hjamo | halone
  · exact .inl fun p hp => List.mem_append_left _ (List.mem_flatMap.mpr ⟨_, hentry, hp⟩)
  · exact .inl fun p hp => List.mem_append_right _ (hjamo p hp)
  · exact .inr halone

/-- What decomposition gives decomposes no further. -/
theorem decomposition_of_mem {n : Nat} (h : n ∈ components ++ jamo) :
    decomposition (Char.ofNat n) = [Char.ofNat n] := by
  rw [decomposition_eq, toNat_ofNat_of_beside (beside_of_mem h), decomposed_of_mem h]
  rfl

/-- What a character decomposes into does not decompose any further. -/
theorem decomposition_of_mem_decomposition {c d : Char} (h : d ∈ decomposition c) :
    decomposition d = [d] := by
  rcases mem_or_decomposed_eq c.toNat with hparts | halone
  · rw [decomposition_eq] at h
    obtain ⟨p, hp, rfl⟩ := List.mem_map.mp h
    exact decomposition_of_mem (hparts p hp)
  · have hself : decomposition c = [c] := by
      rw [decomposition_eq, halone]
      simp
    rw [hself] at h
    rw [List.mem_singleton.mp h, hself]

/-! ## Composition -/

/-- The parts that a table gives a code point, or the code point itself. It is written with the
recursor because it is evaluated for every composite. -/
noncomputable def partsIn (n : Nat) (table : List (Nat × List Nat)) : List Nat :=
  table.rec [n] fun entry _ later => bif Nat.beq entry.1 n then entry.2 else later

/-- The parts in a table are those found there, or the code point itself. -/
theorem partsIn_eq (n : Nat) (table : List (Nat × List Nat)) :
    partsIn n table = (table.lookup n).getD [n] := by
  induction table with
  | nil => rfl
  | cons entry rest ih =>
    have hstep : partsIn n (entry :: rest)
        = bif Nat.beq entry.1 n then entry.2 else partsIn n rest := rfl
    rw [hstep, List.lookup_cons, ih]
    by_cases heq : entry.1 = n
    · simp [heq]
    · have hbeq : Nat.beq entry.1 n = false :=
        Bool.eq_false_iff.mpr fun h => heq (Nat.eq_of_beq_eq_true h)
      have hbeq' : (n == entry.1) = false := by simpa using fun h => heq h.symm
      rw [hbeq, hbeq']
      rfl

/-- A code point that is no syllable decomposes by the tables. -/
theorem decomposed_eq_partsIn {n : Nat} (h : Hangul.decompose? n = none) :
    decomposed n = partsIn n (decompositionsNear n) := by
  rw [decomposed, partsIn_eq, h]
  rfl

/-- A composite in the table decomposes like the two that it is composed of. -/
theorem decomposed_of_composites {first second composite : Nat} {pairs : List (Nat × Nat)}
    (h : (second, pairs) ∈ composites) (h' : (first, composite) ∈ pairs) :
    decomposed composite = decomposed first ++ decomposed second ∧
      isBesideSyllables composite = true := by
  -- over the whole table at once, since each look-up alone would be evaluated anew
  have hparts : (composites.all fun entry => entry.2.all fun pair =>
      partsIn pair.2 (decompositionsNear pair.2)
        == partsIn pair.1 (decompositionsNear pair.1)
          ++ partsIn entry.1 (decompositionsNear entry.1)) = true := by decide +kernel
  have hbeside : composing.all isBesideSyllables = true := by decide +kernel
  have hin : ∀ n ∈ [second, first, composite], isBesideSyllables n = true := by
    intro n hn
    refine List.all_eq_true.mp hbeside n (List.mem_flatMap.mpr ⟨(second, pairs), h, ?_⟩)
    rcases List.mem_cons.mp hn with rfl | hn
    · exact List.mem_cons_self
    · exact List.mem_cons_of_mem _ (List.mem_flatMap.mpr ⟨(first, composite), h', hn⟩)
  have heq := List.all_eq_true.mp (List.all_eq_true.mp hparts _ h) _ h'
  rw [decomposed_eq_partsIn (hangul_of_beside (hin first (by simp))),
    decomposed_eq_partsIn (hangul_of_beside (hin second (by simp))),
    decomposed_eq_partsIn (hangul_of_beside (hin composite (by simp)))]
  exact ⟨eq_of_beq heq, hin composite (by simp)⟩

/-- No table decomposes a syllable. -/
theorem lookup_eq_none_of_syllable {n : Nat} (h : 0xAC00 ≤ n) (h' : n < 0xD7A4) :
    (decompositionsNear n).lookup n = none := by
  rw [decompositionsNear, if_neg (by omega), if_neg (by omega), if_neg (by omega), if_neg (by omega),
    if_neg (by omega), if_neg (by omega), if_pos (by omega)]
  rfl

/-- The parts of a syllable by the numbers of its lead, its vowel and its trail. -/
theorem decomposed_syllable {lead vowel trail : Nat} (hlead : lead < 19) (hvowel : vowel < 21)
    (htrail : trail < 28) :
    decomposed (0xAC00 + (lead * 21 + vowel) * 28 + trail)
      = if trail = 0 then [0x1100 + lead, 0x1161 + vowel]
        else [0x1100 + lead, 0x1161 + vowel, 0x11A7 + trail] := by
  have hcount : Hangul.syllableCount = 11172 := rfl
  rw [decomposed, lookup_eq_none_of_syllable (by omega) (by omega), Option.getD_none,
    Hangul.decompose?, if_pos (by
      rw [hcount, Bool.and_eq_true, decide_eq_true_eq, decide_eq_true_eq, Hangul.syllableBase]
      omega)]
  unfold Hangul.syllableBase Hangul.leadBase Hangul.vowelBase Hangul.trailBase Hangul.vowelCount
    Hangul.trailCount
  have hplace : 0xAC00 + (lead * 21 + vowel) * 28 + trail - 0xAC00
      = (lead * 21 + vowel) * 28 + trail := by omega
  have htrail' : ((lead * 21 + vowel) * 28 + trail) % 28 = trail := by omega
  have hlead' : ((lead * 21 + vowel) * 28 + trail) / (21 * 28) = lead := by omega
  have hvowel' : ((lead * 21 + vowel) * 28 + trail) % (21 * 28) / 28 = vowel := by omega
  dsimp only
  rw [hplace, htrail', hlead', hvowel', Option.getD_some]
  rfl

/-- The parts of syllables are among what decomposition gives. -/
theorem mem_components_append_jamo {n : Nat} (h : 0x1100 ≤ n) (h' : n < 0x1200) :
    n ∈ components ++ jamo := by
  refine List.mem_append_right _ ?_
  rw [jamo, List.mem_range'_1]
  omega

/-- A syllable decomposes like the two that it is composed of. -/
theorem decomposed_of_hangul {first second composite : Nat}
    (h : (Hangul.openSyllable? first second).or (Hangul.closedSyllable? first second)
      = some composite) :
    decomposed composite = decomposed first ++ decomposed second ∧
      0xAC00 ≤ composite ∧ composite < 0xD7A4 := by
  have hcount : Hangul.syllableCount = 11172 := rfl
  rcases Option.or_eq_some_iff.mp h with hopen | ⟨-, hclosed⟩
  · unfold Hangul.openSyllable? at hopen
    split at hopen
    · next hin =>
      simp only [Bool.and_eq_true, decide_eq_true_eq] at hin
      unfold Hangul.leadBase Hangul.vowelBase Hangul.leadCount Hangul.vowelCount at hin
      unfold Hangul.syllableBase Hangul.leadBase Hangul.vowelBase Hangul.vowelCount
        Hangul.trailCount at hopen
      obtain ⟨lead, rfl⟩ := Nat.exists_eq_add_of_le hin.1.1.1
      obtain ⟨vowel, rfl⟩ := Nat.exists_eq_add_of_le hin.1.2
      have hsyllable := decomposed_syllable (show lead < 19 by omega) (show vowel < 21 by omega)
        (show 0 < 28 by omega)
      have hcomposite : composite = 0xAC00 + (lead * 21 + vowel) * 28 + 0 := by
        rw [← Option.some.inj hopen]
        omega
      rw [hcomposite, hsyllable,
        decomposed_of_mem (mem_components_append_jamo (by omega) (by omega)),
        decomposed_of_mem (mem_components_append_jamo (by omega) (by omega))]
      exact ⟨rfl, by omega, by omega⟩
    · cases hopen
  · unfold Hangul.closedSyllable? at hclosed
    split at hclosed
    · next hin =>
      rw [hcount] at hin
      simp only [Bool.and_eq_true, decide_eq_true_eq] at hin
      unfold Hangul.syllableBase Hangul.trailBase Hangul.trailCount at hin
      unfold Hangul.trailBase at hclosed
      obtain ⟨place, rfl⟩ := Nat.exists_eq_add_of_le hin.1.1.1.1
      obtain ⟨trail, rfl⟩ := Nat.exists_eq_add_of_le (Nat.le_of_lt hin.1.2)
      -- the first character is a syllable already, one of 588 for each lead
      have hlead : place / 588 < 19 := by omega
      have hvowel : place % 588 / 28 < 21 := by omega
      have hfirst := decomposed_syllable hlead hvowel (show 0 < 28 by omega)
      have hsyllable := decomposed_syllable hlead hvowel (show trail < 28 by omega)
      rw [show 0xAC00 + (place / 588 * 21 + place % 588 / 28) * 28 + 0 = 0xAC00 + place by omega]
        at hfirst
      have hcomposite : composite
          = 0xAC00 + (place / 588 * 21 + place % 588 / 28) * 28 + trail := by
        rw [← Option.some.inj hclosed]
        omega
      rw [hcomposite, hsyllable, hfirst, if_neg (by omega),
        decomposed_of_mem (mem_components_append_jamo (by omega) (by omega))]
      exact ⟨rfl, by omega, by omega⟩
    · cases hclosed

/-- The code point of a composite comes from the table or is a syllable. -/
theorem composeCodePoints_cases {first second composite : Nat}
    (h : composeCodePoints? first second = some composite) :
    (∃ pairs, (second, pairs) ∈ composites ∧ (first, composite) ∈ pairs) ∨
      (Hangul.openSyllable? first second).or (Hangul.closedSyllable? first second)
        = some composite := by
  rw [composeCodePoints?] at h
  split at h
  · cases h
  · split at h
    · next pairs hpairs => exact .inl ⟨pairs, mem_of_lookup hpairs, mem_of_lookup h⟩
    · exact .inr h

/-- A composite decomposes like the two characters that it is composed of. -/
theorem decomposition_of_compose {first second composite : Char}
    (h : compose? first second = some composite) :
    decomposition composite = decomposition first ++ decomposition second := by
  obtain ⟨n, hn, rfl⟩ := Option.map_eq_some_iff.mp h
  have hparts : decomposed n = decomposed first.toNat ++ decomposed second.toNat ∧
      (Char.ofNat n).toNat = n := by
    rcases composeCodePoints_cases hn with ⟨pairs, hpairs, hpair⟩ | hhangul
    · obtain ⟨heq, hbeside⟩ := decomposed_of_composites hpairs hpair
      exact ⟨heq, toNat_ofNat_of_beside hbeside⟩
    · obtain ⟨heq, hlow, hhigh⟩ := decomposed_of_hangul hhangul
      refine ⟨heq, toNat_ofNat ?_⟩
      rw [Nat.isValidChar]
      omega
  rw [decomposition_eq, decomposition_eq, decomposition_eq, hparts.2, hparts.1, List.map_append]

/-! ## Characters apart -/

/-- A character at which normalization begins anew: nothing is ordered or composed across it. -/
structure Barrier (c : Char) : Prop where
  starter : combiningClass c = 0
  first : ∀ d, compose? c d = none
  second : ∀ d, compose? d c = none

/-- A character that takes no part in normalization. -/
structure Apart (c : Char) : Prop extends Barrier c where
  alone : decomposition c = [c]
  source : ∀ d, c ∈ decomposition d → d = c
  result : ∀ d e, compose? d e ≠ some c

/-- What composes by the rule for syllables is a part of a syllable or one itself. -/
theorem hangul_operands {first second composite : Nat}
    (h : (Hangul.openSyllable? first second).or (Hangul.closedSyllable? first second)
      = some composite) :
    (0x1100 ≤ first ∧ first < 0x1200 ∨ 0xAC00 ≤ first ∧ first < 0xD7A4) ∧
      0x1100 ≤ second ∧ second < 0x1200 := by
  have hcount : Hangul.syllableCount = 11172 := rfl
  rcases Option.or_eq_some_iff.mp h with hopen | ⟨-, hclosed⟩
  · unfold Hangul.openSyllable? at hopen
    split at hopen
    · next hin =>
      simp only [Bool.and_eq_true, decide_eq_true_eq] at hin
      unfold Hangul.leadBase Hangul.vowelBase Hangul.leadCount Hangul.vowelCount at hin
      omega
    · cases hopen
  · unfold Hangul.closedSyllable? at hclosed
    split at hclosed
    · next hin =>
      rw [hcount] at hin
      simp only [Bool.and_eq_true, decide_eq_true_eq] at hin
      unfold Hangul.syllableBase Hangul.trailBase Hangul.trailCount at hin
      omega
    · cases hclosed

/-- The code points in the table of composites are among those that compose. -/
theorem mem_composing {first second composite : Nat} {pairs : List (Nat × Nat)}
    (h : (second, pairs) ∈ composites) (h' : (first, composite) ∈ pairs) :
    first ∈ composing ∧ second ∈ composing ∧ composite ∈ composing := by
  have hpair : ∀ n ∈ [first, composite], n ∈ composing := fun n hn =>
    List.mem_flatMap.mpr ⟨(second, pairs), h,
      List.mem_cons_of_mem _ (List.mem_flatMap.mpr ⟨(first, composite), h', hn⟩)⟩
  exact ⟨hpair first (by simp), List.mem_flatMap.mpr ⟨(second, pairs), h, List.mem_cons_self⟩,
    hpair composite (by simp)⟩

/-- What the composition of two characters with a composite says about their code points. -/
theorem composing_of_compose {first second composite : Char}
    (h : compose? first second = some composite) :
    (first.toNat ∈ composing ∧ second.toNat ∈ composing ∧ composite.toNat ∈ composing) ∨
      (0x1100 ≤ first.toNat ∧ first.toNat < 0x1200 ∨
          0xAC00 ≤ first.toNat ∧ first.toNat < 0xD7A4) ∧
        (0x1100 ≤ second.toNat ∧ second.toNat < 0x1200) ∧
        0xAC00 ≤ composite.toNat ∧ composite.toNat < 0xD7A4 := by
  obtain ⟨n, hn, rfl⟩ := Option.map_eq_some_iff.mp h
  rcases composeCodePoints_cases hn with ⟨pairs, hpairs, hpair⟩ | hhangul
  · left
    rw [toNat_ofNat_of_beside (decomposed_of_composites hpairs hpair).2]
    exact mem_composing hpairs hpair
  · right
    obtain ⟨-, hlow, hhigh⟩ := decomposed_of_hangul hhangul
    rw [toNat_ofNat (by rw [Nat.isValidChar]; omega)]
    obtain ⟨hfirst, hsecond⟩ := hangul_operands hhangul
    exact ⟨hfirst, hsecond, hlow, hhigh⟩

/-- A starter that neither composes nor is part of a syllable is a barrier. -/
theorem Barrier.of_notMem {c : Char} (hclass : combiningClass c = 0) (h : c.toNat ∉ composing)
    (hjamo : c.toNat < 0x1100 ∨ 0x1200 ≤ c.toNat) (hhangul : c.toNat < 0xAC00 ∨ 0xD7A4 ≤ c.toNat) :
    Barrier c where
  starter := hclass
  first d := by
    cases hcompose : compose? c d with
    | none => rfl
    | some composite =>
      rcases composing_of_compose hcompose with ⟨hmem, -⟩ | ⟨hfirst, -⟩
      · exact absurd hmem h
      · omega
  second d := by
    cases hcompose : compose? d c with
    | none => rfl
    | some composite =>
      rcases composing_of_compose hcompose with ⟨-, hmem, -⟩ | ⟨-, hsecond, -⟩
      · exact absurd hmem h
      · omega

/-- A starter that is in no table and is no part of a syllable takes no part in normalization. -/
theorem Apart.of_notMem {c : Char} (hclass : combiningClass c = 0)
    (hdecomposable : c.toNat ∉ decomposable) (hcomponents : c.toNat ∉ components)
    (hcomposing : c.toNat ∉ composing) (hjamo : c.toNat < 0x1100 ∨ 0x1200 ≤ c.toNat)
    (hhangul : c.toNat < 0xAC00 ∨ 0xD7A4 ≤ c.toNat) : Apart c := by
  refine ⟨Barrier.of_notMem hclass hcomposing hjamo hhangul, ?_, ?_, ?_⟩
  · rw [decomposition_eq, decomposed_of_notMem hdecomposable (hangul_of_notMem hhangul)]
    simp
  · intro d hmem
    rw [decomposition_eq] at hmem
    obtain ⟨p, hp, rfl⟩ := List.mem_map.mp hmem
    rcases mem_or_decomposed_eq d.toNat with hparts | halone
    · have hin := hparts p hp
      rw [toNat_ofNat_of_beside (beside_of_mem hin)] at hcomponents hjamo
      rcases List.mem_append.mp hin with hcomponent | hpart
      · exact absurd hcomponent hcomponents
      · rw [jamo, List.mem_range'_1] at hpart
        omega
    · rw [halone] at hp
      rw [List.mem_singleton.mp hp, Char.ofNat_toNat]
  · intro d e hcompose
    rcases composing_of_compose hcompose with ⟨-, -, hmem⟩ | ⟨-, -, hcomposite⟩
    · exact hcomposing hmem
    · omega

/-- A starter that no table knows and that is no part of a syllable is apart. -/
theorem Apart.of_uninvolved {c : Char} (hclass : combiningClass c = 0) (h : c.toNat ∈ uninvolved)
    (hjamo : c.toNat < 0x1100 ∨ 0x1200 ≤ c.toNat) (hhangul : c.toNat < 0xAC00 ∨ 0xD7A4 ≤ c.toNat) :
    Apart c := by
  obtain ⟨-, -, hdecomposable, hcomponents, hcomposing, -⟩ := disjoint_tables
  exact Apart.of_notMem hclass (notMem_of_mask hdecomposable h) (notMem_of_mask hcomponents h)
    (notMem_of_mask hcomposing h) hjamo hhangul

/-- The ampersand takes no part in normalization. -/
theorem apart_ampersand : Apart '&' :=
  Apart.of_notMem (by decide +kernel) (by decide +kernel) (by decide +kernel) (by decide +kernel)
    (by decide) (by decide)

/-! ## White space and signs

White space stays white space, although two of its characters are written as two others. -/

/-- A code point in a list of intervals is in one of them. -/
theorem mem_flatMap_of_contains {intervals : Intervals} {n : Nat}
    (h : intervals.contains n = true) :
    n ∈ intervals.flatMap fun (low, high) => List.range' low (high + 1 - low) := by
  induction intervals with
  | nil => cases h
  | cons interval rest ih =>
    obtain ⟨low, high⟩ := interval
    rw [Intervals.contains] at h
    rw [List.flatMap_cons, List.mem_append]
    split at h
    · cases h
    · rw [Bool.or_eq_true, decide_eq_true_eq] at h
      rcases h with hhigh | hrest
      · left
        rw [List.mem_range'_1]
        omega
      · exact .inr (ih hrest)

/-- White space is in the list of it. -/
theorem mem_blanks {c : Char} (h : isWhiteSpace c = true) : c.toNat ∈ blanks :=
  mem_flatMap_of_contains h

/-- White space and the signs are starters and no parts of syllables. -/
theorem starter_of_mem {c : Char} (h : c.toNat ∈ blanks ++ signs.map Char.toNat) :
    combiningClass c = 0 ∧ (c.toNat < 0x1100 ∨ 0x1200 ≤ c.toNat) ∧
      (c.toNat < 0xAC00 ∨ 0xD7A4 ≤ c.toNat) := by
  have hall : ∀ n ∈ blanks ++ signs.map Char.toNat, classIn combiningClasses n = 0 ∧
      (n < 0x1100 ∨ 0x1200 ≤ n) ∧ (n < 0xAC00 ∨ 0xD7A4 ≤ n) := by decide +kernel
  exact hall c.toNat h

/-- The signs take no part in normalization. -/
theorem apart_of_mem_signs {c : Char} (h : c ∈ signs) : Apart c := by
  have hmem : c.toNat ∈ signs.map Char.toNat := List.mem_map_of_mem h
  obtain ⟨hclass, hjamo, hhangul⟩ := starter_of_mem (List.mem_append_right _ hmem)
  exact Apart.of_uninvolved hclass (List.mem_append_right _ hmem) hjamo hhangul

/-- White space takes no part in normalization, but for the quads and the spaces of their width. -/
theorem apart_of_isWhiteSpace {c : Char} (h : isWhiteSpace c = true)
    (h' : c.toNat < 0x2000 ∨ 0x2003 < c.toNat) : Apart c := by
  obtain ⟨hclass, hjamo, hhangul⟩ := starter_of_mem (List.mem_append_left _ (mem_blanks h))
  refine Apart.of_uninvolved hclass (List.mem_append_left _ ?_) hjamo hhangul
  rw [List.mem_filter]
  exact ⟨mem_blanks h, by simpa using h'⟩

/-- White space does not decompose, but for the en quad and the em quad, which are written as an en
space and an em space. -/
theorem decomposition_blank {c : Char} (h : isWhiteSpace c = true) :
    c = '\u2000' ∧ decomposition c = ['\u2002'] ∨ c = '\u2001' ∧ decomposition c = ['\u2003'] ∨
      c ≠ '\u2000' ∧ c ≠ '\u2001' ∧ decomposition c = [c] := by
  by_cases hquad : c.toNat < 0x2000 ∨ 0x2003 < c.toNat
  · refine .inr (.inr ⟨?_, ?_, (apart_of_isWhiteSpace h hquad).alone⟩)
    · rintro rfl
      exact absurd hquad (by decide)
    · rintro rfl
      exact absurd hquad (by decide)
  · have hcases : c = '\u2000' ∨ c = '\u2001' ∨ c = '\u2002' ∨ c = '\u2003' := by
      have hcode : c.toNat = 0x2000 ∨ c.toNat = 0x2001 ∨ c.toNat = 0x2002 ∨ c.toNat = 0x2003 := by
        omega
      rw [← Char.ofNat_toNat c]
      rcases hcode with heq | heq | heq | heq <;> rw [heq] <;> decide
    rcases hcases with rfl | rfl | rfl | rfl <;> decide +kernel

/-- Nothing is ordered or composed across white space. -/
theorem barrier_of_isWhiteSpace {c : Char} (h : isWhiteSpace c = true) : Barrier c := by
  obtain ⟨-, -, -, -, -, hcomposing, -⟩ := disjoint_tables
  obtain ⟨hclass, hjamo, hhangul⟩ := starter_of_mem (List.mem_append_left _ (mem_blanks h))
  exact Barrier.of_notMem hclass (notMem_of_mask hcomposing (mem_blanks h)) hjamo hhangul

/-- White space decomposes into one character of white space, at which normalization begins anew. -/
theorem decomposition_of_isWhiteSpace {c : Char} (h : isWhiteSpace c = true) :
    ∃ d, decomposition c = [d] ∧ isWhiteSpace d = true ∧ Barrier d := by
  rcases decomposition_blank h with ⟨-, halone⟩ | ⟨-, halone⟩ | ⟨-, -, halone⟩
  · exact ⟨'\u2002', halone, by decide, barrier_of_isWhiteSpace (by decide)⟩
  · exact ⟨'\u2003', halone, by decide, barrier_of_isWhiteSpace (by decide)⟩
  · exact ⟨c, halone, h, barrier_of_isWhiteSpace h⟩

/-- Only white space decomposes into white space. -/
theorem isWhiteSpace_of_mem_decomposition {c d : Char} (h : d ∈ decomposition c)
    (hd : isWhiteSpace d = true) : isWhiteSpace c = true := by
  obtain ⟨-, -, -, -, -, -, hink⟩ := disjoint_tables
  have hmem := mem_blanks hd
  rw [decomposition_eq] at h
  obtain ⟨p, hp, rfl⟩ := List.mem_map.mp h
  rcases decomposed_cases c.toNat with hentry | hjamo | halone
  · have hcomponent : p ∈ components := List.mem_flatMap.mpr ⟨_, hentry, hp⟩
    rw [toNat_ofNat_of_beside (beside_of_mem (List.mem_append_left _ hcomponent))] at hmem
    -- of all entries only those of the two quads have white space in them
    by_cases hquad : c.toNat < 0x2000 ∨ 0x2001 < c.toNat
    · have hkept : (c.toNat, decomposed c.toNat)
          ∈ entries.filter fun entry => entry.1 < 0x2000 || 0x2001 < entry.1 :=
        List.mem_filter.mpr ⟨hentry, by simpa using hquad⟩
      exact absurd (List.mem_flatMap.mpr ⟨_, hkept, hp⟩) (notMem_of_mask hink hmem)
    · have hcode : c.toNat = 0x2000 ∨ c.toNat = 0x2001 := by omega
      rw [isWhiteSpace]
      rcases hcode with heq | heq <;> rw [heq] <;> decide
  -- the parts of syllables are no white space
  · have hpart := hjamo p hp
    have hrange := starter_of_mem (List.mem_append_left _ hmem)
    rw [toNat_ofNat_of_beside (beside_of_mem (List.mem_append_right _ hpart))] at hrange
    rw [jamo, List.mem_range'_1] at hpart
    omega
  · rw [halone] at hp
    rw [List.mem_singleton.mp hp, Char.ofNat_toNat] at hd
    exact hd

/-- No composite is white space. -/
theorem isWhiteSpace_of_compose {first second composite : Char}
    (h : compose? first second = some composite) : isWhiteSpace composite = false := by
  obtain ⟨-, -, -, -, -, hblanks, -⟩ := disjoint_tables
  by_contra hblank
  have hmem := mem_blanks (eq_true_of_ne_false hblank)
  rcases composing_of_compose h with ⟨-, -, hcomposing⟩ | ⟨-, -, hcomposite⟩
  · exact notMem_of_mask hblanks hmem hcomposing
  · have hrange := starter_of_mem (List.mem_append_left _ hmem)
    omega

end WikiText.Unicode
