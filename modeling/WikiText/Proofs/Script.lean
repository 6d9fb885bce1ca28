import Mathlib.Data.List.Basic
import Mathlib.Tactic.SplitIfs
import WikiText.Proofs.Unicode.Tables
import WikiText.Script

/-!
# What a script tells of its text

A text is found again in its superscript or subscript, but for the kind of dash. The forms of characters can be
told apart one after the other, although one of them is two characters long: the first character of a form says
which form it is (`append_shape_eq_iff`), so texts in the same forms agree character by character
(`flatMap_shape_eq_iff`). A text that is written behind a marker instead begins with the marker, which no form
does, and what stands behind the marker says whether there are parentheses around it (`spelled_injective`).

All of this needs few facts on a table (`Legible`), which are read off both of them.
-/

namespace WikiText.Script

open Unicode (mem_of_lookup)

variable {table : List (Char × String)} {marker : Char} {dashes first second : Text} {c d : Char}

/-! ## Dashes -/

/-- A character, or a hyphen for one of the given dashes. -/
def hyphened (dashes : Text) (c : Char) : Char :=
  if c ∈ dashes then '-' else c

/-- A text with each of the given dashes written as a hyphen. -/
def withHyphens (dashes text : Text) : Text :=
  text.map (hyphened dashes)

/-- The dashes that share a raised form. -/
def raisedDashes : Text :=
  ['-', '−', '‐', '–', '—', '一']

/-- The dashes that share a lowered form. -/
def loweredDashes : Text :=
  ['-', '−']

/-! ## Forms -/

/-- Every character of a text is in a table. -/
def Covers (table : List (Char × String)) (text : Text) : Prop :=
  ∀ c ∈ text, c ∈ table.map Prod.fst

instance (table : List (Char × String)) (text : Text) : Decidable (Covers table text) :=
  List.decidableBAll (· ∈ table.map Prod.fst) text

/-- The form of a character that is in a table. -/
def shape (table : List (Char × String)) (c : Char) : Text :=
  (form? table c).getD []

/-- A character that is in a table has an entry, which gives its form. -/
theorem exists_entry (h : c ∈ table.map Prod.fst) :
    ∃ entry ∈ table, entry.1 = c ∧ form? table c = some entry.2.toList := by
  cases hlookup : table.lookup c with
  | none =>
    obtain ⟨entry, hentry, rfl⟩ := List.mem_map.mp h
    have hne := List.lookup_eq_none_iff.mp hlookup entry hentry
    simp at hne
  | some value => exact ⟨(c, value), mem_of_lookup hlookup, rfl, by rw [form?, hlookup]; rfl⟩

/-- A character that has a form is in the table. -/
theorem mem_keys_of_form? {form : Text} (h : form? table c = some form) : c ∈ table.map Prod.fst := by
  obtain ⟨value, hlookup, -⟩ := Option.map_eq_some_iff.mp h
  exact List.mem_map.mpr ⟨(c, value), mem_of_lookup hlookup, rfl⟩

/-- The form of a character that is in the table is its shape. -/
theorem form?_eq_shape (h : c ∈ table.map Prod.fst) : form? table c = some (shape table c) := by
  obtain ⟨entry, -, -, hform⟩ := exists_entry h
  rw [shape, hform]
  rfl

/-- The characters of a covered text all have forms. -/
theorem mapM_form? (h : Covers table first) :
    first.mapM (form? table) = some (first.map (shape table)) := by
  induction first with
  | nil => rfl
  | cons c rest ih =>
    rw [List.mapM_cons, form?_eq_shape (h c List.mem_cons_self),
      ih fun d hd => h d (List.mem_cons_of_mem c hd)]
    rfl

/-- A text of which all characters have forms is covered. -/
theorem covers_of_mapM_form? {forms : List Text} (h : first.mapM (form? table) = some forms) :
    Covers table first := by
  induction first generalizing forms with
  | nil => exact fun c hc => absurd hc List.not_mem_nil
  | cons c rest ih =>
    rw [List.mapM_cons] at h
    obtain ⟨form, hform, hrest⟩ := Option.bind_eq_some_iff.mp h
    obtain ⟨others, hothers, -⟩ := Option.bind_eq_some_iff.mp hrest
    exact List.forall_mem_cons.mpr ⟨mem_keys_of_form? hform, ih hothers⟩

/-! ## Both notations -/

/-- What stands behind a marker. -/
def spelled (text : Text) : Text :=
  if text.length = 1 then text else '(' :: text ++ [')']

/-- A covered text is written in its forms. -/
theorem convert_of_covers (h : Covers table first) :
    convert table marker first = first.flatMap (shape table) := by
  simp only [convert, mapM_form? h, List.flatMap_def]

/-- A text that is not covered is written behind the marker. -/
theorem convert_of_not_covers (h : ¬ Covers table first) :
    convert table marker first = marker :: spelled first := by
  have hnone : first.mapM (form? table) = none := by
    rw [Option.eq_none_iff_forall_ne_some]
    exact fun forms hforms => h (covers_of_mapM_form? hforms)
  simp only [convert, hnone]
  match first with
  | [] => rfl
  | [c] => rfl
  | c :: d :: rest => simp [spelled]

/-- Parentheses tell a text of one character from others, whether or not these have parentheses of their own. -/
theorem spelled_injective : Function.Injective spelled := by
  intro first second h
  have hlength := congrArg List.length h
  unfold spelled at h hlength
  split_ifs at h hlength with hfirst hsecond hsecond
  · exact h
  · simp [hfirst] at hlength
  · simp [hsecond] at hlength
  · exact List.append_cancel_right (List.cons.inj h).2

/-! ## Tables -/

/-- What the first characters of forms say: the character that has the form, with hyphens for dashes. -/
def readings (table : List (Char × String)) (dashes : Text) : List (Char × Char) :=
  table.filterMap fun entry => entry.2.toList.head?.map fun c => (c, hyphened dashes entry.1)

/-- What the first character of a form says. -/
def read? (table : List (Char × String)) (dashes form : Text) : Option Char :=
  form.head?.bind fun c => (readings table dashes).lookup c

/-- What the forms in a table need for texts in these forms, and behind a marker, to be told apart. -/
structure Legible (table : List (Char × String)) (marker : Char) (dashes : Text) : Prop where
  covers_dashes : Covers table dashes
  hyphen_mem : '-' ∈ dashes
  /-- No form begins with the marker. -/
  lookup_marker : (readings table dashes).lookup marker = none
  /-- A form is known by its first character. -/
  read?_form : ∀ entry ∈ table, read? table dashes entry.2.toList = some (hyphened dashes entry.1)
  /-- Dashes have the form of the hyphen. -/
  form?_hyphened : ∀ entry ∈ table, form? table (hyphened dashes entry.1) = some entry.2.toList

instance (table : List (Char × String)) (marker : Char) (dashes : Text) :
    Decidable (Legible table marker dashes) :=
  decidable_of_iff
    (Covers table dashes ∧ '-' ∈ dashes ∧ (readings table dashes).lookup marker = none ∧
      (∀ entry ∈ table, read? table dashes entry.2.toList = some (hyphened dashes entry.1)) ∧
      ∀ entry ∈ table, form? table (hyphened dashes entry.1) = some entry.2.toList)
    ⟨fun ⟨hdashes, hhyphen, hmarker, hread, hform⟩ => ⟨hdashes, hhyphen, hmarker, hread, hform⟩,
      fun h => ⟨h.covers_dashes, h.hyphen_mem, h.lookup_marker, h.read?_form, h.form?_hyphened⟩⟩

/-- Raised forms can be told apart. -/
theorem legible_superscripts : Legible superscripts '^' raisedDashes := by
  decide +kernel

/-- Lowered forms can be told apart. -/
theorem legible_subscripts : Legible subscripts '_' loweredDashes := by
  decide +kernel

namespace Legible

/-- The form of a character says which character it is of, up to dashes. -/
theorem read?_shape (h : Legible table marker dashes) (hc : c ∈ table.map Prod.fst) :
    read? table dashes (shape table c) = some (hyphened dashes c) := by
  obtain ⟨entry, hentry, rfl, hform⟩ := exists_entry hc
  rw [shape, hform]
  exact h.read?_form entry hentry

/-- Dashes have the form of the hyphen, and other characters their own. -/
theorem form?_hyphened_eq (h : Legible table marker dashes) (hc : c ∈ table.map Prod.fst) :
    form? table (hyphened dashes c) = some (shape table c) := by
  obtain ⟨entry, hentry, rfl, hform⟩ := exists_entry hc
  rw [h.form?_hyphened entry hentry, shape, hform]
  rfl

/-- A form has a first character, and it is not the marker. -/
theorem exists_shape_eq_cons (h : Legible table marker dashes) (hc : c ∈ table.map Prod.fst) :
    ∃ first rest, shape table c = first :: rest ∧ first ≠ marker := by
  have hread := h.read?_shape hc
  cases hshape : shape table c with
  | nil =>
    rw [hshape] at hread
    cases hread
  | cons first rest =>
    refine ⟨first, rest, rfl, ?_⟩
    rintro rfl
    rw [hshape, read?, List.head?_cons, Option.bind_some, h.lookup_marker] at hread
    cases hread

/-- Forms that begin in the same way are those of the same character or of two dashes, and so they are the
same. -/
theorem hyphened_eq_of_head?_eq (h : Legible table marker dashes) (hc : c ∈ table.map Prod.fst)
    (hd : d ∈ table.map Prod.fst) (hhead : (shape table c).head? = (shape table d).head?) :
    hyphened dashes c = hyphened dashes d := by
  have hread := h.read?_shape hc
  rw [read?, hhead, ← read?, h.read?_shape hd] at hread
  exact (Option.some.inj hread).symm

/-- Characters that are the same up to dashes have the same form. -/
theorem shape_eq_of_hyphened_eq (h : Legible table marker dashes) (hc : c ∈ table.map Prod.fst)
    (hd : d ∈ table.map Prod.fst) (hsame : hyphened dashes c = hyphened dashes d) :
    shape table c = shape table d := by
  have hform := h.form?_hyphened_eq hc
  rw [hsame, h.form?_hyphened_eq hd] at hform
  exact (Option.some.inj hform).symm

/-- The characters in the form of a hyphen are the dashes. -/
theorem mem_dashes_iff (h : Legible table marker dashes) :
    c ∈ dashes ↔ form? table c = form? table '-' := by
  have hcovered := h.covers_dashes '-' h.hyphen_mem
  have hhyphen : hyphened dashes '-' = '-' := if_pos h.hyphen_mem
  constructor
  · intro hc
    have hsame : hyphened dashes c = hyphened dashes '-' := by rw [hhyphen, hyphened, if_pos hc]
    rw [form?_eq_shape (h.covers_dashes c hc), form?_eq_shape hcovered,
      h.shape_eq_of_hyphened_eq (h.covers_dashes c hc) hcovered hsame]
  · intro hform
    rw [form?_eq_shape hcovered] at hform
    have hc := mem_keys_of_form? hform
    rw [form?_eq_shape hc] at hform
    have hsame := h.hyphened_eq_of_head?_eq hc hcovered (congrArg List.head? (Option.some.inj hform))
    -- among covered characters only the dashes share a first character with the hyphen
    by_contra hother
    rw [hhyphen, hyphened, if_neg hother] at hsame
    exact hother (hsame ▸ h.hyphen_mem)

/-- Where two texts in forms agree, their first characters do, and so does what follows. -/
theorem append_shape_eq_iff (h : Legible table marker dashes) (hc : c ∈ table.map Prod.fst)
    (hd : d ∈ table.map Prod.fst) {rest others : Text} :
    shape table c ++ rest = shape table d ++ others ↔
      hyphened dashes c = hyphened dashes d ∧ rest = others := by
  constructor
  · intro heq
    have hhead : (shape table c).head? = (shape table d).head? := by
      obtain ⟨first, more, hshape, -⟩ := h.exists_shape_eq_cons hc
      obtain ⟨other, others', hshape', -⟩ := h.exists_shape_eq_cons hd
      rw [hshape, hshape'] at heq ⊢
      exact congrArg some (List.cons.inj heq).1
    have hsame := h.hyphened_eq_of_head?_eq hc hd hhead
    rw [h.shape_eq_of_hyphened_eq hc hd hsame] at heq
    exact ⟨hsame, List.append_cancel_left heq⟩
  · rintro ⟨hsame, rfl⟩
    rw [h.shape_eq_of_hyphened_eq hc hd hsame]

/-- Texts in the same forms are the same but for their dashes. -/
theorem flatMap_shape_eq_iff (h : Legible table marker dashes) (hfirst : Covers table first)
    (hsecond : Covers table second) :
    first.flatMap (shape table) = second.flatMap (shape table) ↔
      withHyphens dashes first = withHyphens dashes second := by
  -- a form shows at least one character, so texts that are not of one length differ
  have hne : ∀ c ∈ table.map Prod.fst, shape table c ≠ [] := by
    intro c hc
    obtain ⟨_, _, hshape, -⟩ := h.exists_shape_eq_cons hc
    rw [hshape]
    exact List.cons_ne_nil _ _
  induction first generalizing second with
  | nil =>
    cases second with
    | nil => exact iff_of_true rfl rfl
    | cons d second =>
      exact iff_of_false (by simp [hne d (hsecond d List.mem_cons_self)]) (by simp [withHyphens])
  | cons c first ih =>
    have hc := hfirst c List.mem_cons_self
    cases second with
    | nil => exact iff_of_false (by simp [hne c hc]) (by simp [withHyphens])
    | cons d second =>
      have hd := hsecond d List.mem_cons_self
      have hrest : first.flatMap (shape table) = second.flatMap (shape table) ↔
          withHyphens dashes first = withHyphens dashes second :=
        ih (fun c hc => hfirst c (List.mem_cons_of_mem _ hc))
          fun d hd => hsecond d (List.mem_cons_of_mem _ hd)
      have hcons : withHyphens dashes (c :: first) = withHyphens dashes (d :: second) ↔
          hyphened dashes c = hyphened dashes d ∧ withHyphens dashes first = withHyphens dashes second :=
        List.cons_eq_cons
      rw [List.flatMap_cons, List.flatMap_cons, h.append_shape_eq_iff hc hd, hrest, hcons]

/-- A text in forms does not begin with the marker. -/
theorem flatMap_shape_ne_cons (h : Legible table marker dashes) (hfirst : Covers table first)
    (rest : Text) : first.flatMap (shape table) ≠ marker :: rest := by
  cases first with
  | nil => exact (List.cons_ne_nil marker rest).symm
  | cons c first =>
    obtain ⟨front, more, hshape, hne⟩ := h.exists_shape_eq_cons (hfirst c List.mem_cons_self)
    rw [List.flatMap_cons, hshape]
    exact fun heq => hne (List.cons.inj heq).1

/-- Texts with the same result are the same, unless both are in forms; then they are the same but for their
dashes. -/
theorem convert_eq_iff (h : Legible table marker dashes) :
    convert table marker first = convert table marker second ↔
      first = second ∨ Covers table first ∧ Covers table second ∧
        withHyphens dashes first = withHyphens dashes second := by
  -- whether each text is covered decides its branch
  by_cases hfirst : Covers table first <;> by_cases hsecond : Covers table second
  · rw [convert_of_covers hfirst, convert_of_covers hsecond, h.flatMap_shape_eq_iff hfirst hsecond]
    constructor
    · exact fun hsame => .inr ⟨hfirst, hsecond, hsame⟩
    · rintro (rfl | ⟨-, -, hsame⟩)
      · rfl
      · exact hsame
  -- only a text that is not covered begins with the marker
  · rw [convert_of_covers hfirst, convert_of_not_covers hsecond]
    refine iff_of_false (h.flatMap_shape_ne_cons hfirst _) ?_
    rintro (rfl | ⟨-, hcovers, -⟩)
    · exact hsecond hfirst
    · exact hsecond hcovers
  · rw [convert_of_not_covers hfirst, convert_of_covers hsecond]
    refine iff_of_false (h.flatMap_shape_ne_cons hsecond _).symm ?_
    rintro (rfl | ⟨hcovers, -, -⟩)
    · exact hfirst hsecond
    · exact hfirst hcovers
  · rw [convert_of_not_covers hfirst, convert_of_not_covers hsecond, List.cons.injEq,
      spelled_injective.eq_iff]
    exact ⟨fun hsame => .inl hsame.2, fun hsame => ⟨rfl, hsame.resolve_right fun hboth => hfirst hboth.1⟩⟩

end Legible

/-- **A script keeps all of its text but the kind of dash.** Two texts have the same superscript exactly if they
are the same, or if all their characters have raised forms and they become the same when each dash with the
raised form of the minus is written as a hyphen; and likewise for subscripts. -/
theorem scripts_eq_iff (first second : Text) :
    (toSuperscript first = toSuperscript second ↔
      first = second ∨ Covers superscripts first ∧ Covers superscripts second ∧
        withHyphens raisedDashes first = withHyphens raisedDashes second) ∧
    (∀ c, c ∈ raisedDashes ↔ form? superscripts c = some ['⁻']) ∧
    (toSubscript first = toSubscript second ↔
      first = second ∨ Covers subscripts first ∧ Covers subscripts second ∧
        withHyphens loweredDashes first = withHyphens loweredDashes second) ∧
    ∀ c, c ∈ loweredDashes ↔ form? subscripts c = some ['₋'] :=
  ⟨legible_superscripts.convert_eq_iff, fun _ => legible_superscripts.mem_dashes_iff,
    legible_subscripts.convert_eq_iff, fun _ => legible_subscripts.mem_dashes_iff⟩

/-- A minus and a dash are raised in the same way, and a text in forms is not taken for one behind a caret. -/
example :
    toSuperscript ['−', '1'] = toSuperscript ['—', '1'] ∧
      toSuperscript ['^'] ≠ toSuperscript ['(', '^', ')'] := by
  decide

end WikiText.Script
