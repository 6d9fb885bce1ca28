import Mathlib.Data.List.Induction
import WikiText.Link.Reading

/-!
# Pieces between bars

The content of a link is cut at the bars that stand outside of single brackets. Nothing is lost
(`intercalate_splitBars`), and the bars that cut are those behind which no bracket is open: such a bar leaves the
pieces before it and those behind it as they would be by themselves (`splitBars_append_of_depth`), and where two
pieces are next to each other, no bracket is open (`depth_of_splitBars_eq_append`).

In the bytes of the text, the pieces are slices between two offsets (`slices?`). A character may take several
bytes, and an offset between them would be no place to cut; but a piece begins at the front of the text or behind
a bar and ends before a bar or at the end (`foldlM_cut?`), so that every slice is taken.
-/

namespace WikiText.Link

/-! ## Depth -/

/-- How many single brackets are open behind a text. -/
def depthBehind (text : Text) : Nat :=
  text.foldl depthAfter 0

/-- One more character changes the depth as it says. -/
theorem depthBehind_concat (text : Text) (c : Char) :
    depthBehind (text ++ [c]) = depthAfter (depthBehind text) c := by
  rw [depthBehind, List.foldl_append]
  rfl

/-- A text without brackets leaves open what is open. -/
theorem foldl_depthAfter_of_notMem {text : Text} (hopen : '[' ∉ text) (hclose : ']' ∉ text) (depth : Nat) :
    text.foldl depthAfter depth = depth := by
  induction text with
  | nil => rfl
  | cons c text ih =>
    obtain ⟨hopen, hopen'⟩ := List.ne_and_not_mem_of_not_mem_cons hopen
    obtain ⟨hclose, hclose'⟩ := List.ne_and_not_mem_of_not_mem_cons hclose
    rw [List.foldl_cons, depthAfter, if_neg hopen.symm, if_neg hclose.symm, ih hopen' hclose']

/-- At no end of a text more brackets are opened than are closed there or stay open. -/
theorem count_le_of_suffix {text part : Text} (h : part <:+ text) :
    part.count '[' ≤ part.count ']' + depthBehind text := by
  induction text using List.reverseRecOn generalizing part with
  | nil =>
    rw [List.suffix_nil.mp h]
    exact Nat.le_refl 0
  | append_singleton text c ih =>
    rcases List.suffix_concat_iff.mp h with rfl | ⟨front, rfl, hfront⟩
    · exact Nat.zero_le _
    · have hle := ih hfront
      rw [depthBehind_concat, depthAfter, List.count_append, List.count_append]
      by_cases hopen : c = '['
      · subst hopen
        simp
        omega
      · by_cases hclose : c = ']'
        · subst hclose
          simp
          omega
        · simpa [hopen, hclose] using hle

/-- The brackets that are open behind a text are opened at one of its ends. -/
theorem exists_suffix_count_eq (text : Text) :
    ∃ part, part <:+ text ∧ part.count '[' = part.count ']' + depthBehind text := by
  induction text using List.reverseRecOn with
  | nil => exact ⟨[], List.suffix_refl [], rfl⟩
  | append_singleton text c ih =>
    obtain ⟨part, hpart, hcount⟩ := ih
    by_cases hopen : c = '['
    · subst hopen
      refine ⟨part ++ ['['], List.suffix_concat_iff.mpr (.inr ⟨part, rfl, hpart⟩), ?_⟩
      rw [depthBehind_concat, depthAfter, if_pos rfl]
      simp
      omega
    · by_cases hclose : c = ']'
      · subst hclose
        rw [depthBehind_concat, depthAfter, if_neg hopen, if_pos rfl]
        -- at depth zero a closing bracket counts for nothing, and the empty suffix attains the bound
        by_cases hzero : depthBehind text = 0
        · exact ⟨[], List.nil_suffix, by simp [hzero]⟩
        · refine ⟨part ++ [']'], List.suffix_concat_iff.mpr (.inr ⟨part, rfl, hpart⟩), ?_⟩
          simp
          omega
      · refine ⟨part ++ [c], List.suffix_concat_iff.mpr (.inr ⟨part, rfl, hpart⟩), ?_⟩
        rw [depthBehind_concat, depthAfter, if_neg hopen, if_neg hclose]
        simpa [hopen, hclose] using hcount

/-- No bracket is open behind a text if each of its ends closes as many as it opens. -/
theorem depthBehind_eq_zero_iff {text : Text} :
    depthBehind text = 0 ↔ ∀ part, part <:+ text → part.count '[' ≤ part.count ']' := by
  constructor
  · intro hzero part hpart
    have hle := count_le_of_suffix hpart
    rwa [hzero] at hle
  · intro hle
    obtain ⟨part, hpart, hcount⟩ := exists_suffix_count_eq text
    have hend := hle part hpart
    omega

/-! ## Pieces -/

/-- A bar outside of brackets ends an empty piece. -/
theorem splitBars_bar (rest : Text) : splitBars 0 ('|' :: rest) = [] :: splitBars 0 rest :=
  rfl

/-- There is at least one piece. -/
theorem splitBars_ne_nil (depth : Nat) (text : Text) : splitBars depth text ≠ [] := by
  cases text with
  | nil => exact List.cons_ne_nil _ _
  | cons c rest =>
    unfold splitBars
    split
    · exact List.cons_ne_nil _ _
    · split <;> exact List.cons_ne_nil _ _

/-- A character that does not cut begins the first piece. -/
theorem splitBars_char {depth : Nat} {c : Char} (h : ¬ (c = '|' ∧ depth = 0)) (rest : Text) :
    splitBars depth (c :: rest) = (splitBars (depthAfter depth c) rest).modifyHead (c :: ·) := by
  obtain ⟨piece, pieces, hrest⟩ := List.exists_cons_of_ne_nil (splitBars_ne_nil (depthAfter depth c) rest)
  rw [splitBars, if_neg (by simpa using h), hrest]
  rfl

/-- A text without bars is one piece. -/
theorem splitBars_of_notMem {text : Text} (h : '|' ∉ text) (depth : Nat) : splitBars depth text = [text] := by
  induction text generalizing depth with
  | nil => rfl
  | cons c text ih =>
    obtain ⟨hne, hrest⟩ := List.ne_and_not_mem_of_not_mem_cons h
    rw [splitBars_char (fun hcut => hne hcut.1.symm), ih hrest]
    rfl

/-- A character that is put in front of the first piece stands in front of all. -/
theorem intercalate_modifyHead (c : Char) {pieces : List Text} (h : pieces ≠ []) :
    ['|'].intercalate (pieces.modifyHead (c :: ·)) = c :: ['|'].intercalate pieces := by
  obtain ⟨piece, pieces, rfl⟩ := List.exists_cons_of_ne_nil h
  cases pieces with
  | nil => simp
  | cons next pieces => simp [List.intercalate_cons_cons]

/-- A bar stands between two lists of pieces. -/
theorem intercalate_append {left right : List Text} (hleft : left ≠ []) (hright : right ≠ []) :
    ['|'].intercalate (left ++ right) = ['|'].intercalate left ++ '|' :: ['|'].intercalate right := by
  induction left with
  | nil => exact absurd rfl hleft
  | cons piece left ih =>
    cases left with
    | nil => simp [List.intercalate_cons_of_ne_nil hright]
    | cons next left =>
      rw [List.cons_append, List.cons_append, List.intercalate_cons_cons, List.intercalate_cons_cons,
        ← List.cons_append, ih (List.cons_ne_nil next left)]
      simp

/-- The pieces with bars between them are the text. -/
theorem intercalate_splitBars (depth : Nat) (text : Text) :
    ['|'].intercalate (splitBars depth text) = text := by
  induction text generalizing depth with
  | nil => exact List.intercalate_singleton
  | cons c rest ih =>
    by_cases hcut : c = '|' ∧ depth = 0
    · obtain ⟨rfl, rfl⟩ := hcut
      rw [splitBars_bar, List.intercalate_cons_of_ne_nil (splitBars_ne_nil 0 rest), ih]
      rfl
    · rw [splitBars_char hcut, intercalate_modifyHead c (splitBars_ne_nil _ rest), ih]

/-! ## Bars that cut -/

/-- A bar outside of brackets ends one piece and begins another. -/
theorem splitBars_append_of_depth {depth : Nat} {before : Text} (h : before.foldl depthAfter depth = 0)
    (after : Text) :
    splitBars depth (before ++ '|' :: after) = splitBars depth before ++ splitBars 0 after := by
  induction before generalizing depth with
  | nil =>
    obtain rfl : depth = 0 := h
    rfl
  | cons c before ih =>
    by_cases hcut : c = '|' ∧ depth = 0
    · obtain ⟨rfl, rfl⟩ := hcut
      have hrest : before.foldl depthAfter 0 = 0 := h
      rw [List.cons_append, splitBars_bar, splitBars_bar, ih hrest]
      rfl
    · obtain ⟨piece, pieces, hbefore⟩ :=
        List.exists_cons_of_ne_nil (splitBars_ne_nil (depthAfter depth c) before)
      rw [List.cons_append, splitBars_char hcut, splitBars_char hcut, ih h, hbefore]
      rfl

/-- A bar behind a text without brackets and bars ends its first piece. -/
theorem splitBars_append_bar {before : Text} (hopen : '[' ∉ before) (hclose : ']' ∉ before) (hbar : '|' ∉ before)
    (after : Text) : splitBars 0 (before ++ '|' :: after) = before :: splitBars 0 after := by
  rw [splitBars_append_of_depth (foldl_depthAfter_of_notMem hopen hclose 0), splitBars_of_notMem hbar]
  rfl

/-- Between two pieces no bracket is open. -/
theorem depth_of_splitBars_eq_append {depth : Nat} {text : Text} {left right : List Text}
    (hleft : left ≠ []) (hright : right ≠ []) (h : splitBars depth text = left ++ right) :
    (['|'].intercalate left).foldl depthAfter depth = 0 := by
  induction text generalizing depth left with
  | nil =>
    have hlength := congrArg List.length h
    have hleft := List.length_pos_iff.mpr hleft
    have hright := List.length_pos_iff.mpr hright
    rw [splitBars, List.length_append, List.length_singleton] at hlength
    omega
  | cons c rest ih =>
    obtain ⟨piece, left, rfl⟩ := List.exists_cons_of_ne_nil hleft
    by_cases hcut : c = '|' ∧ depth = 0
    · obtain ⟨rfl, rfl⟩ := hcut
      rw [splitBars_bar, List.cons_append] at h
      obtain ⟨rfl, hrest⟩ := List.cons.inj h
      -- the bar that cuts comes right behind the left pieces, or later
      by_cases hlast : left = []
      · subst hlast
        rfl
      · rw [List.intercalate_cons_of_ne_nil hlast]
        exact ih hlast hrest
    · obtain ⟨first, pieces, hpieces⟩ :=
        List.exists_cons_of_ne_nil (splitBars_ne_nil (depthAfter depth c) rest)
      rw [splitBars_char hcut, hpieces, List.modifyHead_cons, List.cons_append] at h
      obtain ⟨rfl, rfl⟩ := List.cons.inj h
      have hnext := ih (List.cons_ne_nil first left) hpieces
      have hjoined := intercalate_modifyHead c (List.cons_ne_nil first left)
      rw [List.modifyHead_cons] at hjoined
      rw [hjoined]
      exact hnext

/-- Some pieces come before a bar and some behind it. -/
def Separated (pieces : List Text) (before after : Text) : Prop :=
  ∃ left right, left ≠ [] ∧ right ≠ [] ∧ pieces = left ++ right ∧
    ['|'].intercalate left = before ∧ ['|'].intercalate right = after

/-- A bar separates exactly if it stands outside of brackets. -/
theorem separated_iff {before after : Text} :
    Separated (splitBars 0 (before ++ '|' :: after)) before after ↔ depthBehind before = 0 := by
  constructor
  · rintro ⟨left, right, hleft, hright, hpieces, rfl, -⟩
    exact depth_of_splitBars_eq_append hleft hright hpieces
  · intro hdepth
    exact ⟨splitBars 0 before, splitBars 0 after, splitBars_ne_nil 0 before, splitBars_ne_nil 0 after,
      splitBars_append_of_depth hdepth after, intercalate_splitBars 0 before, intercalate_splitBars 0 after⟩

/-! ## Slices between byte offsets -/

/-- The part of a text between two byte offsets. There is one only if the offsets are in order and both stand
between characters. -/
def slice? (text : String) (start stop : String.Pos.Raw) : Option Text :=
  if h : start ≤ stop ∧ start.IsValid text ∧ stop.IsValid text then
    some (text.extract ⟨start, h.2.1⟩ ⟨stop, h.2.2⟩).toList
  else none

/-- The characters of a text with the byte offsets at which they begin. -/
def offsets (start : String.Pos.Raw) : Text → List (String.Pos.Raw × Char)
  | [] => []
  | c :: rest => (start, c) :: offsets (start + c) rest

/-- What is known of the pieces of a text at some place in it. -/
structure Cutting where
  /-- The pieces before the place. -/
  pieces : List Text
  /-- The depth of single brackets. -/
  depth : Nat
  /-- The offset at which the next piece begins. -/
  start : String.Pos.Raw

/-- A character more. A bar outside of brackets ends a piece, and the next one begins a byte behind it. -/
def Cutting.cut? (content : String) (cutting : Cutting) (place : String.Pos.Raw × Char) :
    Option Cutting :=
  if place.2 = '|' ∧ cutting.depth = 0 then do
    let piece ← slice? content cutting.start place.1
    return ⟨cutting.pieces ++ [piece], 0, ⟨place.1.byteIdx + 1⟩⟩
  else some { cutting with depth := depthAfter cutting.depth place.2 }

/-- The pieces when all characters are read. -/
def Cutting.finish? (content : String) (cutting : Cutting) : Option (List Text) := do
  let piece ← slice? content cutting.start content.rawEndPos
  return cutting.pieces ++ [piece]

/-- The pieces of a content between the bars outside of single brackets, each of them sliced out of its bytes. -/
def slices? (content : Text) : Option (List Text) := do
  let cutting ← (offsets 0 content).foldlM (Cutting.cut? (String.ofList content)) ⟨[], 0, 0⟩
  cutting.finish? (String.ofList content)

/-- The middle of three arrays of bytes is cut out by their sizes. -/
theorem extract_middle (before piece after : ByteArray) :
    (before ++ piece ++ after).extract before.size (before ++ piece).size = piece := by
  rw [ByteArray.extract_append_size_left, ByteArray.extract_append_eq_right rfl ByteArray.size_append]

/-- The middle of three strings is cut out by their lengths in bytes. -/
theorem slice?_append (before piece after : String) :
    slice? (before ++ piece ++ after) before.rawEndPos (before ++ piece).rawEndPos = some piece.toList := by
  have horder : before.rawEndPos ≤ (before ++ piece).rawEndPos := by
    simp [String.Pos.Raw.le_iff]
  have hstart : before.rawEndPos.IsValid (before ++ piece ++ after) :=
    String.Pos.Raw.isValid_iff_exists_append.mpr ⟨before, piece ++ after, String.append_assoc, rfl⟩
  have hstop : (before ++ piece).rawEndPos.IsValid (before ++ piece ++ after) :=
    String.Pos.Raw.isValid_iff_exists_append.mpr ⟨before ++ piece, after, rfl, rfl⟩
  have hbytes : (before ++ piece ++ after).extract ⟨_, hstart⟩ ⟨_, hstop⟩ = piece := by
    refine String.toByteArray_inj.mp (String.toByteArray_extract.trans ?_)
    simp only [String.toByteArray_append, String.byteIdx_rawEndPos, ← String.size_toByteArray,
      extract_middle]
  rw [slice?, dif_pos ⟨horder, hstart, hstop⟩, hbytes]

/-- An offset between the bytes of a character is no place to cut. -/
example : slice? "é" 0 ⟨1⟩ = none := by
  decide

/-- The byte offset behind a text. -/
def offsetBehind (text : Text) : String.Pos.Raw :=
  (String.ofList text).rawEndPos

/-- One more character moves the offset by its length in bytes. -/
theorem offsetBehind_concat (text : Text) (c : Char) :
    offsetBehind (text ++ [c]) = offsetBehind text + c := by
  rw [offsetBehind, String.ofList_append, ← String.singleton_eq_ofList, String.append_singleton,
    String.rawEndPos_push]
  rfl

/-- The middle of three texts is cut out by the offsets of its ends. -/
theorem slice?_ofList (before piece after : Text) :
    slice? (String.ofList (before ++ piece ++ after)) (offsetBehind before)
      (offsetBehind (before ++ piece)) = some piece := by
  have hslice := slice?_append (String.ofList before) (String.ofList piece) (String.ofList after)
  rw [String.toList_ofList, ← String.ofList_append, ← String.ofList_append] at hslice
  exact hslice

/-- At a bar that cuts, the slice from the last cut on is taken, and the next piece begins behind the bar. -/
theorem cut?_bar (before piece rest : Text) (pieces : List Text) :
    Cutting.cut? (String.ofList (before ++ piece ++ '|' :: rest)) ⟨pieces, 0, offsetBehind before⟩
        (offsetBehind (before ++ piece), '|')
      = some ⟨pieces ++ [piece], 0, offsetBehind (before ++ piece ++ ['|'])⟩ := by
  rw [Cutting.cut?, if_pos ⟨rfl, rfl⟩, slice?_ofList, offsetBehind_concat]
  rfl

/-- A character that is no bar outside of brackets only changes the depth. -/
theorem cut?_char {cutting : Cutting} {c : Char} (h : ¬ (c = '|' ∧ cutting.depth = 0)) (content : String)
    (offset : String.Pos.Raw) :
    cutting.cut? content (offset, c) = some { cutting with depth := depthAfter cutting.depth c } :=
  if_neg h

/-- From any place in a text on, all slices are taken, and they are the pieces of what is left; the first of them
begins with what has been read since the last cut. -/
theorem foldlM_cut? {content before piece rest : Text} (h : content = before ++ piece ++ rest)
    (pieces : List Text) (depth : Nat) :
    ((offsets (offsetBehind (before ++ piece)) rest).foldlM (Cutting.cut? (String.ofList content))
        ⟨pieces, depth, offsetBehind before⟩).bind (Cutting.finish? (String.ofList content))
      = some (pieces ++ (splitBars depth rest).modifyHead (piece ++ ·)) := by
  induction rest generalizing before piece pieces depth with
  | nil =>
    have hslice := slice?_ofList before piece []
    rw [List.append_nil] at h hslice
    subst h
    rw [offsets, List.foldlM_nil, Option.pure_def, Option.bind_some, Cutting.finish?]
    change (slice? _ (offsetBehind before) (offsetBehind (before ++ piece)) >>= _) = _
    rw [hslice]
    simp [splitBars]
  | cons c rest ih =>
    rw [offsets, List.foldlM_cons, ← offsetBehind_concat]
    by_cases hcut : c = '|' ∧ depth = 0
    · obtain ⟨rfl, rfl⟩ := hcut
      have hnext : content = before ++ piece ++ ['|'] ++ [] ++ rest := by simp [h]
      have hrest := ih hnext (pieces ++ [piece]) 0
      have hsame : (splitBars 0 rest).modifyHead ([] ++ ·) = splitBars 0 rest :=
        congrFun List.modifyHead_id _
      rw [List.append_nil, hsame] at hrest
      rw [h, cut?_bar, ← h, Option.bind_eq_bind, Option.bind_some, hrest, splitBars_bar]
      simp
    -- any other character is added to the piece that is open
    · have hnext : content = before ++ (piece ++ [c]) ++ rest := by simp [h]
      have hrest := ih hnext pieces (depthAfter depth c)
      rw [← List.append_assoc] at hrest
      rw [cut?_char hcut, Option.bind_eq_bind, Option.bind_some, hrest, splitBars_char hcut,
        List.modifyHead_modifyHead]
      simp [Function.comp_def]

/-- The slices are the pieces. -/
theorem slices?_eq (content : Text) : slices? content = some (splitBars 0 content) := by
  have hwhole : content = [] ++ [] ++ content := rfl
  have hall := foldlM_cut? hwhole [] 0
  have hsame : (splitBars 0 content).modifyHead ([] ++ ·) = splitBars 0 content :=
    congrFun List.modifyHead_id _
  rw [hsame] at hall
  exact hall

/-- **The content of a link is cut without loss, at its outer bars and only there.** There is at least one piece,
and the pieces with bars between them are the content. A bar stands between two pieces exactly if no single
bracket is open behind what comes before it, that is, if no end of that opens more brackets than it closes. In
the bytes of the content, each piece is a slice that begins and ends between characters. -/
theorem splitBars_exact (content : Text) :
    ['|'].intercalate (splitBars 0 content) = content ∧
    splitBars 0 content ≠ [] ∧
    (∀ before after, content = before ++ '|' :: after →
      (Separated (splitBars 0 content) before after ↔ depthBehind before = 0) ∧
      (depthBehind before = 0 ↔ ∀ part, part <:+ before → part.count '[' ≤ part.count ']')) ∧
    slices? content = some (splitBars 0 content) := by
  refine ⟨intercalate_splitBars 0 content, splitBars_ne_nil 0 content, ?_, slices?_eq content⟩
  rintro before after rfl
  exact ⟨separated_iff, depthBehind_eq_zero_iff⟩

/-- A content with a bar in brackets, and with letters of two bytes before each of its bars. -/
def bracketedBar : Text :=
  "é|[ü|b]|c".toList

/-- A bar within brackets separates nothing, next to characters of two bytes. -/
theorem splitBars_exact_bracketedBar :
    slices? bracketedBar = some ["é".toList, "[ü|b]".toList, "c".toList] ∧
      Separated (splitBars 0 bracketedBar) "é".toList "[ü|b]|c".toList ∧
      ¬ Separated (splitBars 0 bracketedBar) "é|[ü".toList "b]|c".toList := by
  obtain ⟨-, -, hbars, hslices⟩ := splitBars_exact bracketedBar
  refine ⟨hslices, ?_, ?_⟩
  · exact (hbars _ _ rfl).1.mpr rfl
  · rw [(hbars "é|[ü".toList "b]|c".toList rfl).1]
    decide

end WikiText.Link
