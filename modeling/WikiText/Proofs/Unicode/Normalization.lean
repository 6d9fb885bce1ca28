import Mathlib.Data.List.Chain
import WikiText.Proofs.Text.Trim
import WikiText.Proofs.Unicode.Tables

/-!
# Normalization form C

Composing a text and decomposing it again gives back the decomposed text, up to the order of its
marks (`orderMarks_decompose_compose`): a composite decomposes like its parts, and a mark that
composes across others has another class than they have, so that it may be put before them
(`insertMark_comm`). It follows that a normalized text is normalized already (`nfc_nfc`).

Nothing is ordered or composed across a barrier, so the texts before and after it are normalized by
themselves (`nfc_append_cons`); and a character that takes no part in normalization stands in the
normalized text where it stood in the text (`Apart.exists_of_nfc_eq`). White space is a barrier that
stays white space, so a text may as well be trimmed before it is normalized (`trim_nfc`).
-/

namespace WikiText.Unicode

open Text (Blank Inked Trimmed trim)

/-! ## Order of marks -/

/-- A mark of a higher class is inserted behind the first one. -/
theorem insertMark_cons_of_before {c d : Char} (h : 0 < combiningClass d)
    (h' : combiningClass d < combiningClass c) (rest : List Char) :
    insertMark c (d :: rest) = d :: insertMark c rest := by
  rw [insertMark, if_pos]
  simp [h, h']

/-- A mark is inserted before a starter and before marks of no lower class. -/
theorem insertMark_cons_of_stop {c d : Char}
    (h : combiningClass d = 0 ∨ combiningClass c ≤ combiningClass d) (rest : List Char) :
    insertMark c (d :: rest) = c :: d :: rest := by
  rw [insertMark, if_neg]
  simp only [Bool.and_eq_true, decide_eq_true_eq]
  omega

/-- A starter stays in front. -/
theorem insertMark_starter {c : Char} (h : combiningClass c = 0) (rest : List Char) :
    insertMark c rest = c :: rest := by
  cases rest with
  | nil => rfl
  | cons d rest => exact insertMark_cons_of_stop (by omega) rest

/-- Marks of different classes may be put in one after the other or the other way round. -/
theorem insertMark_comm {c d : Char} (hc : 0 < combiningClass c)
    (h : combiningClass c < combiningClass d) (text : List Char) :
    insertMark c (insertMark d text) = insertMark d (insertMark c text) := by
  induction text with
  | nil =>
    have hd : insertMark d [c] = [c, d] := insertMark_cons_of_before hc h []
    have hc : insertMark c [d] = [c, d] := insertMark_cons_of_stop (.inr h.le) []
    rw [insertMark, insertMark, hd, hc]
  | cons e rest ih =>
    by_cases hstop : combiningClass e = 0 ∨ combiningClass d ≤ combiningClass e
    · -- both stop here, and the mark of the lower class goes before the other
      rw [insertMark_cons_of_stop hstop, insertMark_cons_of_stop (.inr h.le),
        insertMark_cons_of_stop (by omega), insertMark_cons_of_before hc h,
        insertMark_cons_of_stop hstop]
    · rw [insertMark_cons_of_before (by omega) (by omega)]
      by_cases hfirst : combiningClass c ≤ combiningClass e
      · rw [insertMark_cons_of_stop (.inr hfirst), insertMark_cons_of_stop (.inr hfirst),
          insertMark_cons_of_before hc h, insertMark_cons_of_before (by omega) (by omega)]
      · rw [insertMark_cons_of_before (by omega) (by omega),
          insertMark_cons_of_before (by omega) (by omega),
          insertMark_cons_of_before (by omega) (by omega), ih]

/-- Marks of different classes are inserted in any order. -/
theorem insertMark_comm_of_ne {c d : Char} (hc : 0 < combiningClass c) (hd : 0 < combiningClass d)
    (h : combiningClass c ≠ combiningClass d) (text : List Char) :
    insertMark c (insertMark d text) = insertMark d (insertMark c text) := by
  rcases Nat.lt_or_gt_of_ne h with hlt | hgt
  · exact insertMark_comm hc hlt text
  · exact (insertMark_comm hd hgt text).symm

/-- The marks of a text are in order: no mark stands behind one of a higher class. -/
def Ordered (text : List Char) : Prop :=
  text.IsChain fun c d => combiningClass d = 0 ∨ combiningClass c ≤ combiningClass d

/-- A text is in order if its first two characters are, and the rest. -/
theorem ordered_cons_iff {c : Char} {rest : List Char} :
    Ordered (c :: rest) ↔
      (∀ d ∈ rest.head?, combiningClass d = 0 ∨ combiningClass c ≤ combiningClass d) ∧
        Ordered rest :=
  List.isChain_cons

/-- The first character is inserted into the rest in order. -/
theorem orderMarks_cons (c : Char) (rest : List Char) :
    orderMarks (c :: rest) = insertMark c (orderMarks rest) :=
  rfl

/-- In front is the inserted character or the one that was there. -/
theorem head?_insertMark {c d : Char} {text : List Char}
    (h : (insertMark c text).head? = some d) : d = c ∨ text.head? = some d := by
  cases text with
  | nil => exact .inl (Option.some.inj h).symm
  | cons e rest =>
    rw [insertMark] at h
    split at h
    · exact .inr h
    · exact .inl (Option.some.inj h).symm

/-- A mark moves behind marks of lower classes only, so the marks stay in order. -/
theorem ordered_insertMark {text : List Char} (h : Ordered text) (c : Char) :
    Ordered (insertMark c text) := by
  induction text with
  | nil => exact List.isChain_singleton c
  | cons e rest ih =>
    obtain ⟨hhead, hrest⟩ := ordered_cons_iff.mp h
    by_cases hstop : combiningClass e = 0 ∨ combiningClass c ≤ combiningClass e
    · rw [insertMark_cons_of_stop hstop]
      refine ordered_cons_iff.mpr ⟨?_, h⟩
      rintro d ⟨⟩
      exact hstop
    · rw [insertMark_cons_of_before (by omega) (by omega)]
      refine ordered_cons_iff.mpr ⟨?_, ih hrest⟩
      intro d hd
      rcases head?_insertMark hd with rfl | hd
      · omega
      · exact hhead d hd

/-- Ordered marks are in order. -/
theorem ordered_orderMarks (text : List Char) : Ordered (orderMarks text) := by
  induction text with
  | nil => exact List.IsChain.nil
  | cons c rest ih => exact ordered_insertMark ih c

/-- Marks that are in order stay. -/
theorem orderMarks_of_ordered {text : List Char} (h : Ordered text) : orderMarks text = text := by
  induction text with
  | nil => rfl
  | cons c rest ih =>
    rw [orderMarks_cons, ih (ordered_cons_iff.mp h).2]
    cases rest with
    | nil => rfl
    | cons d rest => exact insertMark_cons_of_stop ((ordered_cons_iff.mp h).1 d rfl) rest

/-- Inserting adds one character. -/
theorem mem_insertMark {c d : Char} {text : List Char} :
    d ∈ insertMark c text ↔ d = c ∨ d ∈ text := by
  induction text with
  | nil => simp [insertMark]
  | cons e rest ih =>
    rw [insertMark]
    split
    · rw [List.mem_cons, ih, List.mem_cons]
      tauto
    · rw [List.mem_cons]

/-- Ordering keeps the characters. -/
theorem mem_orderMarks {c : Char} {text : List Char} : c ∈ orderMarks text ↔ c ∈ text := by
  induction text with
  | nil => rfl
  | cons d rest ih => rw [orderMarks_cons, mem_insertMark, ih, List.mem_cons]

/-- A mark may be put before marks of other classes. -/
theorem orderMarks_append_cons {c : Char} {marks : List Char} (hc : 0 < combiningClass c)
    (hmarks : ∀ m ∈ marks, 0 < combiningClass m ∧ combiningClass m ≠ combiningClass c)
    (rest : List Char) : orderMarks (marks ++ c :: rest) = orderMarks (c :: marks ++ rest) := by
  induction marks with
  | nil => rfl
  | cons m marks ih =>
    obtain ⟨hm, hne⟩ := hmarks m List.mem_cons_self
    have ih := ih fun d hd => hmarks d (List.mem_cons_of_mem m hd)
    rw [List.cons_append, orderMarks_cons, ih]
    show insertMark m (insertMark c (orderMarks (marks ++ rest)))
      = insertMark c (insertMark m (orderMarks (marks ++ rest)))
    exact insertMark_comm_of_ne hm hc hne _

/-- Texts whose marks are put in the same order are so behind any text. -/
theorem orderMarks_append_congr (front : List Char) {text other : List Char}
    (h : orderMarks text = orderMarks other) :
    orderMarks (front ++ text) = orderMarks (front ++ other) := by
  induction front with
  | nil => exact h
  | cons c front ih => rw [List.cons_append, List.cons_append, orderMarks_cons, orderMarks_cons, ih]

/-! ## Decomposition -/

/-- The characters of a text do not decompose. -/
def Decomposed (text : List Char) : Prop :=
  ∀ c ∈ text, decomposition c = [c]

theorem decompose_append (text rest : List Char) :
    decompose (text ++ rest) = decompose text ++ decompose rest :=
  List.flatMap_append

/-- The first character decomposes by itself. -/
theorem decompose_cons (c : Char) (rest : List Char) :
    decompose (c :: rest) = decomposition c ++ decompose rest :=
  List.flatMap_cons

/-- A decomposed text stays. -/
theorem decompose_of_decomposed {text : List Char} (h : Decomposed text) : decompose text = text := by
  induction text with
  | nil => rfl
  | cons c rest ih =>
    rw [decompose_cons, h c List.mem_cons_self, ih fun d hd => h d (List.mem_cons_of_mem c hd)]
    rfl

/-- What decomposition gives decomposes no further. -/
theorem decomposed_decompose (text : List Char) : Decomposed (decompose text) := by
  intro d hd
  obtain ⟨c, -, hmem⟩ := List.mem_flatMap.mp hd
  exact decomposition_of_mem_decomposition hmem

/-- Ordering marks leaves a text decomposed. -/
theorem decomposed_orderMarks {text : List Char} (h : Decomposed text) :
    Decomposed (orderMarks text) :=
  fun c hc => h c (mem_orderMarks.mp hc)

/-! ## Composition -/

/-- The marks that are held behind a starter, last one first, before a text: all of them are marks,
none has a higher class than the last, and the text goes on in order. -/
structure Held (held : List Char) (last : Nat) (rest : List Char) : Prop where
  marks : ∀ m ∈ held, 0 < combiningClass m
  below : ∀ m ∈ held, combiningClass m ≤ last
  next : ∀ d ∈ rest.head?, combiningClass d = 0 ∨ ∀ m ∈ held, combiningClass m ≤ combiningClass d
  ordered : Ordered rest

theorem Held.nil {last : Nat} {rest : List Char} (h : Ordered rest) : Held [] last rest :=
  ⟨by simp, by simp, by simp, h⟩

/-- What a starter and the next character compose to, if no mark of its class stands between. -/
def joined (starter : Char) (held : List Char) (last : Nat) (c : Char) : Option Char :=
  if held.isEmpty || last < combiningClass c then compose? starter c else none

/-- The next character is joined to the starter, or is a new starter, or is held. -/
theorem composeAfter_cons (starter : Char) (held : List Char) (last : Nat) (c : Char)
    (rest : List Char) :
    composeAfter starter held last (c :: rest) =
      match joined starter held last c with
      | some composite => composeAfter composite held last rest
      | none =>
        if combiningClass c = 0 then starter :: (held.reverse ++ composeAfter c [] 0 rest)
        else composeAfter starter (c :: held) (combiningClass c) rest := by
  rw [composeAfter, ← List.reverseAux_eq]
  rfl

/-- What is joined composes, and no mark of its class stands between. -/
theorem of_joined {starter composite : Char} {held : List Char} {last : Nat} {c : Char}
    (h : joined starter held last c = some composite) :
    compose? starter c = some composite ∧ (held = [] ∨ last < combiningClass c) := by
  rw [joined] at h
  split at h
  · next hreached =>
    simp only [Bool.or_eq_true, List.isEmpty_iff, decide_eq_true_eq] at hreached
    exact ⟨h, hreached⟩
  · cases h

/-- Composing behind a starter and decomposing again gives the starter decomposed, the marks held and
the rest of the text, up to the order of marks. -/
theorem orderMarks_decompose_composeAfter (starter : Char) {held : List Char} {last : Nat}
    {rest : List Char} (hheld : Held held last rest) (hdecomposed : Decomposed (held ++ rest)) :
    orderMarks (decompose (composeAfter starter held last rest))
      = orderMarks (decomposition starter ++ (held.reverse ++ rest)) := by
  induction rest generalizing starter held last with
  | nil =>
    have hmarks : decompose held.reverse = held.reverse :=
      decompose_of_decomposed fun c hc => hdecomposed c (by simpa using hc)
    rw [composeAfter, decompose_cons, hmarks, List.append_nil]
  | cons c rest ih =>
    have hc : decomposition c = [c] := hdecomposed c (by simp)
    obtain ⟨hnext, hordered⟩ := ordered_cons_iff.mp hheld.ordered
    have hlater : ∀ d ∈ held ++ rest, decomposition d = [d] := fun d hd => hdecomposed d (by
      rcases List.mem_append.mp hd with hd | hd
      · exact List.mem_append_left _ hd
      · exact List.mem_append_right _ (List.mem_cons_of_mem c hd))
    rw [composeAfter_cons]
    cases hjoined : joined starter held last c with
    | some composite =>
      obtain ⟨hcompose, hreached⟩ := of_joined hjoined
      have hheld' : Held held last rest := by
        refine ⟨hheld.marks, hheld.below, ?_, hordered⟩
        intro d hd
        rcases hreached with rfl | hlast
        · exact .inr (by simp)
        · rcases hnext d hd with hzero | hle
          · exact .inl hzero
          · exact .inr fun m hm => by
              have hbelow := hheld.below m hm
              omega
      -- the mark has come from behind the marks held, all of other classes
      have hmove : orderMarks (c :: held.reverse ++ rest) = orderMarks (held.reverse ++ c :: rest) := by
        rcases hreached with rfl | hlast
        · rfl
        · refine (orderMarks_append_cons (by omega) ?_ rest).symm
          intro m hm
          have hbelow := hheld.below m (List.mem_reverse.mp hm)
          have hmark := hheld.marks m (List.mem_reverse.mp hm)
          omega
      rw [ih composite hheld' hlater, decomposition_of_compose hcompose, hc, List.append_assoc]
      exact orderMarks_append_congr _ hmove
    | none =>
      dsimp only
      by_cases hstarter : combiningClass c = 0
      · -- the marks held are written out, and the next run begins
        have hmarks : decompose held.reverse = held.reverse :=
          decompose_of_decomposed fun d hd => hlater d (by simp_all)
        have hlater' : Decomposed ([] ++ rest) :=
          fun d hd => hlater d (by simp_all)
        have hnone : Held [] 0 rest := Held.nil hordered
        have ih := ih c hnone hlater'
        rw [if_pos hstarter, decompose_cons, decompose_append, hmarks]
        refine orderMarks_append_congr _ (orderMarks_append_congr _ ?_)
        rw [ih, hc]
        rfl
      · -- the mark is held as the last one so far
        have hheld' : Held (c :: held) (combiningClass c) rest := by
          have hbelow : ∀ m ∈ held, combiningClass m ≤ combiningClass c :=
            (hheld.next c rfl).resolve_left hstarter
          refine ⟨?_, ?_, ?_, hordered⟩
          · intro m hm
            rcases List.mem_cons.mp hm with rfl | hm
            · omega
            · exact hheld.marks m hm
          · intro m hm
            rcases List.mem_cons.mp hm with rfl | hm
            · exact le_rfl
            · exact hbelow m hm
          · intro d hd
            rcases hnext d hd with hzero | hle
            · exact .inl hzero
            · refine .inr fun m hm => ?_
              rcases List.mem_cons.mp hm with rfl | hm
              · exact hle
              · exact (hbelow m hm).trans hle
        have ih := ih starter hheld' fun d hd => hdecomposed d (by
          rw [List.cons_append, List.mem_cons, List.mem_append] at hd
          rw [List.mem_append, List.mem_cons]
          tauto)
        rw [if_neg hstarter, ih]
        simp

/-- **Composing a decomposed text and decomposing it again gives the text back.** -/
theorem orderMarks_decompose_compose {text : List Char} (hordered : Ordered text)
    (hdecomposed : Decomposed text) : orderMarks (decompose (compose text)) = text := by
  suffices h : orderMarks (decompose (compose text)) = orderMarks text by
    rw [h, orderMarks_of_ordered hordered]
  induction text with
  | nil => rfl
  | cons c rest ih =>
    have hc : decomposition c = [c] := hdecomposed c List.mem_cons_self
    obtain ⟨-, hrest⟩ := ordered_cons_iff.mp hordered
    have hlater : Decomposed rest := fun d hd => hdecomposed d (List.mem_cons_of_mem c hd)
    rw [compose]
    split
    · rw [orderMarks_decompose_composeAfter c (Held.nil hrest) hlater, hc]
      rfl
    · rw [decompose_cons, hc]
      exact orderMarks_append_congr [c] (ih hrest hlater)

/-- **A normalized text is normalized already.** -/
theorem nfc_nfc (text : List Char) : nfc (nfc text) = nfc text := by
  have hordered := ordered_orderMarks (decompose text)
  have hdecomposed := decomposed_orderMarks (decomposed_decompose text)
  rw [nfc, nfc, orderMarks_decompose_compose hordered hdecomposed]

/-! ## Barriers -/

/-- A mark is not inserted behind a later starter. -/
theorem insertMark_append_cons {d : Char} (hd : combiningClass d = 0) (c : Char)
    (text rest : List Char) :
    insertMark c (text ++ d :: rest) = insertMark c text ++ d :: rest := by
  induction text with
  | nil => exact insertMark_cons_of_stop (.inl hd) rest
  | cons e text ih =>
    by_cases hstop : combiningClass e = 0 ∨ combiningClass c ≤ combiningClass e
    · rw [List.cons_append, insertMark_cons_of_stop hstop, insertMark_cons_of_stop hstop]
      rfl
    · rw [List.cons_append, insertMark_cons_of_before (by omega) (by omega),
        insertMark_cons_of_before (by omega) (by omega), ih]
      rfl

/-- A starter separates what is ordered. -/
theorem orderMarks_append_cons_of_starter {d : Char} (hd : combiningClass d = 0)
    (text rest : List Char) :
    orderMarks (text ++ d :: rest) = orderMarks text ++ d :: orderMarks rest := by
  induction text with
  | nil => exact insertMark_starter hd _
  | cons c text ih =>
    rw [List.cons_append, orderMarks_cons, ih, insertMark_append_cons hd, orderMarks_cons]

/-- A barrier is not joined to a starter. -/
theorem joined_eq_none_of_second {d : Char} (hd : Barrier d) (starter : Char) (held : List Char)
    (last : Nat) : joined starter held last d = none := by
  rw [joined, hd.second, ite_self]

/-- Nothing is joined to a barrier. -/
theorem joined_eq_none_of_first {d : Char} (hd : Barrier d) (held : List Char) (last : Nat)
    (c : Char) : joined d held last c = none := by
  rw [joined, hd.first, ite_self]

/-- Behind a barrier a text is composed by itself. -/
theorem composeAfter_barrier {d : Char} (hd : Barrier d) (held : List Char) (last : Nat)
    (rest : List Char) : composeAfter d held last rest = d :: (held.reverse ++ compose rest) := by
  induction rest generalizing held last with
  | nil => rw [composeAfter, compose, List.append_nil]
  | cons c rest ih =>
    rw [composeAfter_cons, joined_eq_none_of_first hd, compose]
    dsimp only
    split
    · rfl
    · rw [ih, List.reverse_cons, List.append_assoc]
      rfl

/-- A barrier separates what is composed, behind a starter. -/
theorem composeAfter_append_cons {d : Char} (hd : Barrier d) (starter : Char) (held : List Char)
    (last : Nat) (text rest : List Char) :
    composeAfter starter held last (text ++ d :: rest)
      = composeAfter starter held last text ++ d :: compose rest := by
  induction text generalizing starter held last with
  -- at the barrier the marks that were held are set down, and composing starts anew
  | nil =>
    rw [List.nil_append, composeAfter_cons, joined_eq_none_of_second hd]
    dsimp only
    rw [if_pos hd.starter, composeAfter_barrier hd, composeAfter]
    rfl
  | cons c text ih =>
    rw [List.cons_append, composeAfter_cons, composeAfter_cons]
    cases joined starter held last c with
    | some composite => exact ih composite held last
    | none =>
      dsimp only
      split
      · rw [ih, List.cons_append, List.append_assoc]
      · exact ih starter (c :: held) (combiningClass c)

/-- A barrier separates what is composed. -/
theorem compose_append_cons {d : Char} (hd : Barrier d) (text rest : List Char) :
    compose (text ++ d :: rest) = compose text ++ d :: compose rest := by
  induction text with
  | nil =>
    have hstart : compose (d :: rest) = composeAfter d [] 0 rest := by
      rw [compose, if_pos hd.starter]
    exact hstart.trans (composeAfter_barrier hd [] 0 rest)
  | cons c text ih =>
    rw [List.cons_append, compose, compose]
    split
    · exact composeAfter_append_cons hd c [] 0 text rest
    · rw [ih]
      rfl

/-- The texts before and after a barrier are normalized by themselves. -/
theorem nfc_append_cons {c d : Char} (hc : decomposition c = [d]) (hd : Barrier d)
    (text rest : List Char) : nfc (text ++ c :: rest) = nfc text ++ d :: nfc rest := by
  rw [nfc, decompose_append, decompose_cons, hc, List.singleton_append,
    orderMarks_append_cons_of_starter hd.starter, compose_append_cons hd, nfc, nfc]

/-- A character apart separates what is normalized. -/
theorem Apart.nfc_append_cons {c : Char} (hc : Apart c) (text rest : List Char) :
    nfc (text ++ c :: rest) = nfc text ++ c :: nfc rest :=
  Unicode.nfc_append_cons hc.alone hc.toBarrier text rest

/-! ## Characters of a normalized text -/

/-- What is composed behind a starter has characters of the text and composites. -/
theorem mem_composeAfter {starter c : Char} {held : List Char} {last : Nat} {rest : List Char}
    (h : c ∈ composeAfter starter held last rest) :
    c ∈ starter :: (held ++ rest) ∨ ∃ d e, compose? d e = some c := by
  induction rest generalizing starter held last with
  | nil =>
    left
    simpa [composeAfter] using h
  | cons d rest ih =>
    rw [composeAfter_cons] at h
    cases hjoined : joined starter held last d with
    | some composite =>
      rw [hjoined] at h
      -- the composite is the starter from here on
      rcases ih h with hmem | hcomposed
      · rcases List.mem_cons.mp hmem with rfl | hmem
        · exact .inr ⟨starter, d, (of_joined hjoined).1⟩
        · left
          simp only [List.mem_append, List.mem_cons] at hmem ⊢
          tauto
      · exact .inr hcomposed
    | none =>
      rw [hjoined] at h
      dsimp only at h
      split at h
      · rw [List.mem_cons, List.mem_append, List.mem_reverse] at h
        rcases h with rfl | hmem | hmem
        · exact .inl List.mem_cons_self
        · exact .inl (by simp [hmem])
        · rcases ih hmem with hmem | hcomposed
          · exact .inl (by simp_all)
          · exact .inr hcomposed
      · rcases ih h with hmem | hcomposed
        · left
          simp only [List.mem_append, List.mem_cons] at hmem ⊢
          tauto
        · exact .inr hcomposed

/-- A composed text has characters of the text and composites. -/
theorem mem_compose {c : Char} {text : List Char} (h : c ∈ compose text) :
    c ∈ text ∨ ∃ d e, compose? d e = some c := by
  induction text with
  | nil => exact .inl h
  | cons d rest ih =>
    rw [compose] at h
    split at h
    · exact mem_composeAfter h
    · rcases List.mem_cons.mp h with rfl | h
      · exact .inl List.mem_cons_self
      · rcases ih h with hmem | hcomposed
        · exact .inl (List.mem_cons_of_mem d hmem)
        · exact .inr hcomposed

/-- A character of a normalized text comes from one that it is a part of, or is a composite. -/
theorem mem_nfc {c : Char} {text : List Char} (h : c ∈ nfc text) :
    (∃ d ∈ text, c ∈ decomposition d) ∨ ∃ d e, compose? d e = some c := by
  rcases mem_compose h with hmem | hcomposed
  · exact .inl (List.mem_flatMap.mp (mem_orderMarks.mp hmem))
  · exact .inr hcomposed

/-- A character apart comes in by no normalization. -/
theorem Apart.mem_of_mem_nfc {c : Char} (hc : Apart c) {text : List Char} (h : c ∈ nfc text) :
    c ∈ text := by
  rcases mem_nfc h with ⟨d, hd, hmem⟩ | ⟨d, e, hcompose⟩
  · rwa [← hc.source d hmem]
  · exact absurd hcompose (hc.result d e)

theorem compose_ne_nil {text : List Char} (h : text ≠ []) : compose text ≠ [] := by
  have hafter : ∀ rest starter held last, composeAfter starter held last rest ≠ [] := by
    intro rest
    induction rest with
    | nil => exact fun starter held last => List.cons_ne_nil _ _
    | cons c rest ih =>
      intro starter held last
      rw [composeAfter_cons]
      split
      · exact ih _ _ _
      · split
        · exact List.cons_ne_nil _ _
        · exact ih _ _ _
  cases text with
  | nil => exact absurd rfl h
  | cons c rest =>
    rw [compose]
    split
    · exact hafter rest c [] 0
    · exact List.cons_ne_nil _ _

theorem nfc_ne_nil {text : List Char} (h : text ≠ []) : nfc text ≠ [] := by
  refine compose_ne_nil ?_
  obtain ⟨c, hc⟩ := List.exists_mem_of_ne_nil text h
  obtain ⟨d, hd⟩ := List.exists_mem_of_ne_nil _ (decomposition_ne_nil c)
  exact List.ne_nil_of_mem (mem_orderMarks.mpr (List.mem_flatMap.mpr ⟨c, hc, hd⟩))

/-- A character that takes no part in normalization stands in the normalized text where it stood in
the text. -/
theorem Apart.exists_of_nfc_eq {c : Char} (hc : Apart c) {text front back : List Char}
    (h : nfc text = front ++ c :: back) :
    ∃ before after, text = before ++ c :: after ∧ nfc before = front ∧ nfc after = back :=
  Text.exists_of_pass_eq hc.nfc_append_cons (fun _ => hc.mem_of_mem_nfc) h

/-! ## White space -/

/-- White space before a text is normalized by itself. -/
theorem exists_nfc_blank_append {left : Text} (h : Blank left) :
    ∃ left', Blank left' ∧ ∀ text, nfc (left ++ text) = left' ++ nfc text := by
  induction left with
  | nil => exact ⟨[], h, fun _ => rfl⟩
  | cons c left ih =>
    obtain ⟨d, hc, hd, hbarrier⟩ := decomposition_of_isWhiteSpace (h c List.mem_cons_self)
    obtain ⟨left', hleft, ih⟩ := ih fun e he => h e (List.mem_cons_of_mem c he)
    refine ⟨d :: left', ?_, fun text => ?_⟩
    · intro e he
      rcases List.mem_cons.mp he with rfl | he
      · exact hd
      · exact hleft e he
    · have hstep := nfc_append_cons hc hbarrier [] (left ++ text)
      rw [ih] at hstep
      exact hstep

/-- A blank text stays blank by normalization. -/
theorem blank_nfc {text : Text} (h : Blank text) : Blank (nfc text) := by
  obtain ⟨text', htext, hnfc⟩ := exists_nfc_blank_append h
  have hempty : nfc text = text' := by
    rw [← List.append_nil text, hnfc]
    exact List.append_nil text'
  rwa [hempty]

/-- White space after a text is normalized by itself. -/
theorem exists_nfc_append_blank {right : Text} (h : Blank right) :
    ∃ right', Blank right' ∧ ∀ text, nfc (text ++ right) = nfc text ++ right' := by
  cases right with
  | nil => exact ⟨[], h, fun text => by rw [List.append_nil, List.append_nil]⟩
  | cons c right =>
    obtain ⟨d, hc, hd, hbarrier⟩ := decomposition_of_isWhiteSpace (h c List.mem_cons_self)
    have hrest := blank_nfc fun e he => h e (List.mem_cons_of_mem c he)
    refine ⟨d :: nfc right, ?_, fun text => nfc_append_cons hc hbarrier text right⟩
    intro e he
    rcases List.mem_cons.mp he with rfl | he
    · exact hd
    · exact hrest e he

/-- White space of a normalized text comes from white space of the text. -/
theorem exists_isWhiteSpace_of_mem_nfc {c : Char} {text : Text} (h : c ∈ nfc text)
    (hc : isWhiteSpace c = true) : ∃ d ∈ text, isWhiteSpace d = true := by
  rcases mem_nfc h with ⟨d, hd, hmem⟩ | ⟨d, e, hcompose⟩
  · exact ⟨d, hd, isWhiteSpace_of_mem_decomposition hmem hc⟩
  · rw [isWhiteSpace_of_compose hcompose] at hc
    cases hc

/-- Among the characters of a normalized text there is an en space if there was one or an en quad,
which is written so. -/
theorem mem_nfc_enSpace_iff {text : Text} :
    '\u2002' ∈ nfc text ↔ '\u2002' ∈ text ∨ '\u2000' ∈ text := by
  constructor
  · intro h
    rcases mem_nfc h with ⟨d, hd, hmem⟩ | ⟨d, e, hcompose⟩
    · have hblank := isWhiteSpace_of_mem_decomposition hmem (by decide)
      rcases decomposition_blank hblank with ⟨rfl, -⟩ | ⟨-, halone⟩ | ⟨-, -, halone⟩
      · exact .inr hd
      · rw [halone] at hmem
        exact absurd hmem (by decide)
      · rw [halone] at hmem
        rw [List.mem_singleton.mp hmem]
        exact .inl hd
    · exact absurd (isWhiteSpace_of_compose hcompose) (by decide)
  -- the en space is a barrier, so nothing composes it away
  · have hwritten : ∀ c ∈ text, decomposition c = ['\u2002'] → '\u2002' ∈ nfc text := by
      intro c hc halone
      obtain ⟨before, after, rfl⟩ := List.append_of_mem hc
      rw [nfc_append_cons halone (barrier_of_isWhiteSpace (by decide))]
      simp
    rintro (h | h)
    · exact hwritten _ h (by decide +kernel)
    · exact hwritten _ h (by decide +kernel)

/-- No en quad is left after normalization. -/
theorem notMem_nfc_enQuad (text : Text) : '\u2000' ∉ nfc text := by
  intro h
  rcases mem_nfc h with ⟨d, -, hmem⟩ | ⟨d, e, hcompose⟩
  · have halone := decomposition_of_mem_decomposition hmem
    exact absurd halone (by decide +kernel)
  · exact absurd (isWhiteSpace_of_compose hcompose) (by decide)

/-- A text with ink at both ends has ink there after normalization. -/
theorem inked_nfc {text : Text} (h : Inked text) : Inked (nfc text) := by
  intro c hc
  by_contra hblank
  obtain ⟨d, hd, hblank⟩ := exists_isWhiteSpace_of_mem_nfc hc (eq_true_of_ne_false hblank)
  rw [h d hd] at hblank
  cases hblank

/-- A text that begins and ends with ink does so when it is normalized. -/
theorem trimmed_nfc {text : Text} (h : Trimmed text) : Trimmed (nfc text) where
  head := by
    rcases Text.inked_or_first_blank text with hall | ⟨ink, b, rest, rfl, hink, hb⟩
    · exact fun c hc => inked_nfc hall c (List.mem_of_mem_head? hc)
    -- white space is a barrier, so the first ink is composed on its own
    · obtain ⟨d, hdecomposition, -, hbarrier⟩ := decomposition_of_isWhiteSpace hb
      have hne : ink ≠ [] := by
        rintro rfl
        rw [h.head b rfl] at hb
        cases hb
      intro c hc
      rw [nfc_append_cons hdecomposition hbarrier,
        List.head?_append_of_ne_nil _ (nfc_ne_nil hne)] at hc
      exact inked_nfc hink c (List.mem_of_mem_head? hc)
  last := by
    rcases Text.inked_or_last_blank text with hall | ⟨front, b, ink, rfl, hink, hb⟩
    · exact fun c hc => inked_nfc hall c (List.mem_of_mem_getLast? hc)
    · obtain ⟨d, hdecomposition, -, hbarrier⟩ := decomposition_of_isWhiteSpace hb
      have hne : ink ≠ [] := by
        rintro rfl
        rw [h.last b (by simp)] at hb
        cases hb
      intro c hc
      rw [nfc_append_cons hdecomposition hbarrier, List.append_cons,
        List.getLast?_append_of_ne_nil _ (nfc_ne_nil hne)] at hc
      exact inked_nfc hink c (List.mem_of_mem_getLast? hc)

/-- A text that is white space when it is normalized was so before. -/
theorem blank_of_blank_nfc {text : Text} (h : Blank (nfc text)) : Blank text := by
  obtain ⟨left, right, hleft, hright, htext⟩ := Text.exists_eq_trim text
  obtain ⟨left', -, hnfcleft⟩ := exists_nfc_blank_append hleft
  obtain ⟨right', -, hnfcright⟩ := exists_nfc_append_blank hright
  -- trimmed text that is not empty keeps its ink at the front
  have hnil : trim text = [] := by
    by_contra hne
    obtain ⟨c, hc⟩ := Option.ne_none_iff_exists'.mp
      (mt List.head?_eq_none_iff.mp (nfc_ne_nil hne))
    have hink := (trimmed_nfc (Text.trimmed_trim text)).head c hc
    have hmem : c ∈ nfc text := by
      rw [htext, List.append_assoc, hnfcleft, hnfcright]
      exact List.mem_append_right _ (List.mem_append_left _ (List.mem_of_mem_head? hc))
    rw [h c hmem] at hink
    cases hink
  rw [htext, hnil, List.append_nil]
  exact hleft.append hright

/-- A text may be trimmed before or after it is normalized. -/
theorem trim_nfc (text : Text) : trim (nfc text) = nfc (trim text) := by
  obtain ⟨left, right, hleft, hright, htext⟩ := Text.exists_eq_trim text
  obtain ⟨left', hleft', hnfcleft⟩ := exists_nfc_blank_append hleft
  obtain ⟨right', hright', hnfcright⟩ := exists_nfc_append_blank hright
  have hsplit : nfc text = left' ++ nfc (trim text) ++ right' := by
    conv_lhs => rw [htext, List.append_assoc, hnfcleft, hnfcright, ← List.append_assoc]
  rw [hsplit, Text.trim_append_blank hright', Text.trim_blank_append hleft',
    Text.trim_of_trimmed (trimmed_nfc (Text.trimmed_trim text))]

end WikiText.Unicode
