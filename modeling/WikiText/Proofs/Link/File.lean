import WikiText.Proofs.Link.Label
import WikiText.Proofs.Unicode.CaseFold

/-!
# Links to files

A link to a file is hidden, whether or not a caption follows, when the name of the namespace is one
word. A name of several words is known only in front of a caption: without one, nothing but a word is
read as a namespace, and the link shows its target (`classify_file`).
-/

namespace WikiText.Link

open Unicode (Caseless isWhiteSpace isWordChar sameLetter isWhiteSpace_of_isWordChar)

/-! ## Names of several words -/

/-- Words with one space between each two. -/
inductive Phrase : Text → Prop
  | word {word : Text} (nonempty : word ≠ []) (letters : ∀ c ∈ word, isWordChar c = true) :
    Phrase word
  | words {word rest : Text} (nonempty : word ≠ []) (letters : ∀ c ∈ word, isWordChar c = true)
    (more : Phrase rest) : Phrase (word ++ ' ' :: rest)

/-- Characters of words are no marks. -/
theorem notMem_marks_of_isWordChar {c : Char} (h : isWordChar c = true) : c ∉ marks := by
  intro hmem
  have hmarks : marks.any isWordChar = false := by decide +kernel
  exact List.any_eq_false.mp hmarks c hmem h

/-- White space is no mark. -/
theorem notMem_marks_of_isWhiteSpace {c : Char} (h : isWhiteSpace c = true) : c ∉ marks := by
  intro hmem
  have hmarks : marks.any isWhiteSpace = false := by decide
  exact List.any_eq_false.mp hmarks c hmem h

/-- Marks are like no other characters, in any case. -/
theorem caseless_of_mem_marks {c : Char} (h : c ∈ marks) : Caseless c := by
  have hmarks : marks.all (fun c => decide (Caseless c)) = true := by decide +kernel
  exact of_decide_eq_true (List.all_eq_true.mp hmarks c h)

variable {name target caption rest : Text}

/-- A phrase consists of characters of words and spaces. -/
theorem Phrase.isWordChar_or_space (h : Phrase name) : ∀ c ∈ name, isWordChar c = true ∨ c = ' ' := by
  induction h with
  | word nonempty letters => exact fun c hc => .inl (letters c hc)
  | words nonempty letters more ih =>
    intro c hc
    rcases List.mem_append.mp hc with hc | hc
    · exact .inl (letters c hc)
    · rcases List.mem_cons.mp hc with rfl | hc
      · exact .inr rfl
      · exact ih c hc

/-- A phrase has no marks. -/
theorem Phrase.notMem_marks (h : Phrase name) : ∀ c ∈ name, c ∉ marks := by
  intro c hc
  rcases h.isWordChar_or_space c hc with hword | rfl
  · exact notMem_marks_of_isWordChar hword
  · decide

/-- A phrase begins with a word character. -/
theorem Phrase.exists_cons (h : Phrase name) : ∃ c tail, name = c :: tail ∧ isWordChar c = true := by
  cases h with
  | word nonempty letters =>
    obtain ⟨c, tail, rfl⟩ := List.exists_cons_of_ne_nil nonempty
    exact ⟨c, tail, rfl, letters c List.mem_cons_self⟩
  | words nonempty letters more =>
    obtain ⟨c, tail, rfl⟩ := List.exists_cons_of_ne_nil nonempty
    exact ⟨c, _, rfl, letters c List.mem_cons_self⟩

/-- A phrase ends with a word character. -/
theorem Phrase.isWordChar_of_getLast? (h : Phrase name) : ∀ c ∈ name.getLast?, isWordChar c = true := by
  induction h with
  | word nonempty letters => exact fun c hc => letters c (List.mem_of_mem_getLast? hc)
  | words nonempty letters more ih =>
    intro c hc
    obtain ⟨d, tail, rfl, -⟩ := more.exists_cons
    apply ih
    simpa using hc

/-- A phrase does not begin with white space. -/
theorem Phrase.trimStart_append (h : Phrase name) (rest : Text) :
    Text.trimStart (name ++ rest) = name ++ rest := by
  obtain ⟨c, tail, rfl, hc⟩ := h.exists_cons
  exact List.dropWhile_cons_of_neg (by simp [isWhiteSpace_of_isWordChar hc])

/-- A phrase does not begin with a mark. -/
theorem Phrase.head?_append_ne (h : Phrase name) {mark : Char} (hmark : mark ∈ marks) (rest : Text) :
    (name ++ rest).head? ≠ some mark := by
  obtain ⟨c, tail, rfl, hc⟩ := h.exists_cons
  intro hhead
  rw [← Option.some.inj hhead] at hmark
  exact notMem_marks_of_isWordChar hc hmark

/-- What is left of a phrase begins with a character of it, if white space is left out. -/
theorem Phrase.head?_trimStart {front left : Text} (h : Phrase (front ++ left)) (hne : left ≠ [])
    (rest : Text) : ∃ d ∈ front ++ left, (Text.trimStart (left ++ rest)).head? = some d := by
  have hlast : (front ++ left).getLast? = some (left.getLast hne) := by
    rw [List.getLast?_append, List.getLast?_eq_some_getLast hne]
    rfl
  -- a phrase ends in a word character, so not all of what is left is white space
  have hink : left.dropWhile isWhiteSpace ≠ [] := by
    intro hnil
    have hblank := List.dropWhile_eq_nil_iff.mp hnil _ (List.getLast_mem hne)
    rw [isWhiteSpace_of_isWordChar (h.isWordChar_of_getLast? _ hlast)] at hblank
    cases hblank
  obtain ⟨d, tail, htail⟩ := List.exists_cons_of_ne_nil hink
  refine ⟨d, List.mem_append_right _ ?_, ?_⟩
  · apply (List.dropWhile_suffix isWhiteSpace).subset
    rw [htail]
    exact List.mem_cons_self
  · rw [Text.trimStart, List.dropWhile_append, htail]
    rfl

/-! ## The name of a namespace in front of a target -/

/-- Whatever agrees with a text letter by letter is read as the name in front of a colon, if the text
does not begin with white space. -/
theorem run_qualifier {other : Text}
    (hstart : Text.trimStart (name ++ ':' :: rest) = name ++ ':' :: rest)
    (hsame : List.Forall₂ (sameLetter · · = true) other name) :
    (Namespaces.qualifier other).run (name ++ ':' :: rest) = some ((), rest) := by
  have hmatch : (Scanner.matching sameLetter other).run (name ++ ':' :: rest)
      = some ((), ':' :: rest) := Scanner.run_matching_eq_some.mpr ⟨name, hsame, rfl⟩
  change ((Scanner.matching sameLetter other).run (Text.trimStart (name ++ ':' :: rest))).bind _ = _
  rw [hstart, hmatch]
  exact Scanner.run_one_self ':' rest

/-- A phrase before a colon is read as the qualifier of its name, in any case. -/
theorem run_qualifier_phrase {other : Text} (h : Phrase name)
    (hsame : List.Forall₂ (sameLetter · · = true) other name) (rest : Text) :
    (Namespaces.qualifier other).run (name ++ ':' :: rest) = some ((), rest) :=
  run_qualifier (h.trimStart_append _) hsame

/-- A target that is qualified by a name of files is one of a file. -/
theorem isFile_phrase {namespaces : Namespaces} (hname : name ∈ namespaces.files) (h : Phrase name)
    (rest : Text) : namespaces.isFile (name ++ ':' :: rest) = true := by
  rw [Namespaces.isFile, List.any_eq_true]
  refine ⟨name, hname, ?_⟩
  rw [run_qualifier_phrase h (List.forall₂_same.mpr fun c _ => beq_self_eq_true _)]
  rfl

/-- In front of a target the name of a category is the whole phrase, unless it has a colon itself. -/
theorem isCategory_phrase {namespaces : Namespaces}
    (hcolon : ∀ category ∈ namespaces.categories, ':' ∉ category) (h : Phrase name)
    (hrest : rest ≠ []) (hclose : ']' ∉ rest) :
    namespaces.isCategory (name ++ ':' :: rest) = true ↔
      ∃ category ∈ namespaces.categories, List.Forall₂ (sameLetter · · = true) category name := by
  rw [Namespaces.isCategory, List.any_eq_true]
  constructor
  · rintro ⟨category, hcategory, hany⟩
    refine ⟨category, hcategory, ?_⟩
    obtain ⟨⟨u, final⟩, hrun, -⟩ := (Option.any_eq_true _ _).mp hany
    obtain ⟨middle, hmatch, hfinal⟩ := exists_of_qualifier hrun
    rw [h.trimStart_append] at hmatch
    -- the name has no colon, so it ends at the colon of the link or before it
    have hother : ∀ d ∈ category, sameLetter d ':' = false := by
      intro d hd
      apply (caseless_of_mem_marks (by decide)).sameLetter_eq_false
      rintro rfl
      exact hcolon category hcategory hd
    obtain ⟨front, left, hsame, hsplit, rfl⟩ := Scanner.exists_of_matching hother hmatch
    subst hsplit
    by_cases hleft : left = []
    · rw [hleft, List.append_nil]
      exact hsame
    · -- the colon would be a character of the phrase
      obtain ⟨d, hd, hhead⟩ := h.head?_trimStart hleft (':' :: rest)
      rw [hfinal] at hhead
      obtain rfl := Option.some.inj hhead
      exact absurd (by decide : ':' ∈ marks) (h.notMem_marks _ hd)
  · rintro ⟨category, hcategory, hsame⟩
    refine ⟨category, hcategory, ?_⟩
    rw [run_qualifier_phrase h hsame]
    simp [hrest, hclose]

/-! ## What the link says -/

/-- A target that is qualified by a phrase is not plain. -/
theorem plainTarget?_phrase (h : Phrase name) (rest : Text) :
    plainTarget? (name ++ ':' :: rest) = none := by
  have hpass : ∀ c ∈ name, (!isOneOf "]|#<>:&" c) = true := by
    intro c hc
    rw [isOneOf_of_notMem (by decide) (h.notMem_marks c hc)]
    rfl
  rw [plainTarget?, h.trimStart_append]
  simp only [if_neg (h.head?_append_ne (by decide : ':' ∈ marks) _)]
  rw [dropWhile_target hpass (by decide)]
  rfl

/-- White space in front of a text is passed over by whatever passes over white space. -/
theorem dropWhile_trimStart {p : Char → Bool} (hblank : ∀ c, isWhiteSpace c = true → p c = true)
    (text : Text) : (Text.trimStart text).dropWhile p = text.dropWhile p := by
  induction text with
  | nil => rfl
  | cons c text ih =>
    by_cases hc : isWhiteSpace c = true
    · rw [Text.trimStart, List.dropWhile_cons_of_pos hc, List.dropWhile_cons_of_pos (hblank c hc)]
      exact ih
    · rw [Text.trimStart, List.dropWhile_cons_of_neg hc]

/-- White space is not among any marks. -/
theorem isOneOf_of_isWhiteSpace {characters : String} (hmarks : characters.toList ⊆ marks) (c : Char)
    (h : isWhiteSpace c = true) : (!isOneOf characters c) = true := by
  rw [isOneOf_of_notMem hmarks (notMem_marks_of_isWhiteSpace h)]
  rfl

/-- The page behind a namespace, without white space around it unless it is nothing else. -/
def pageOf (rest : Text) : Text :=
  let trimmed := Text.trimEnd ((Text.trimStart rest).takeWhile (!isOneOf "[]#|<>" ·))
  if trimmed.isEmpty then (rest.takeWhile isWhiteSpace).getLast?.toList else trimmed

/-- A single word is read as a namespace if there is a page behind it and the link ends there. -/
theorem qualified?_word (hnonempty : name ≠ []) (hletters : ∀ c ∈ name, isWordChar c = true)
    (rest : Text) :
    qualified? (name ++ ':' :: rest)
      = if (pageOf rest).isEmpty || !endsQualified (rest.dropWhile (!isOneOf "[]#|<>" ·)) then none
        else some (name, pageOf rest) := by
  have hphrase : Phrase name := .word hnonempty hletters
  have htake : (name ++ ':' :: rest).takeWhile isWordChar = name := by
    rw [List.takeWhile_append_of_pos hletters, List.takeWhile_cons_of_neg (by decide),
      List.append_nil]
  have htrim : Text.trimStart (':' :: rest) = ':' :: rest :=
    List.dropWhile_cons_of_neg (by decide)
  have hends := dropWhile_trimStart (@isOneOf_of_isWhiteSpace "[]#|<>" (by decide)) rest
  rw [qualified?, hphrase.trimStart_append]
  dsimp only
  rw [htake, dropWhile_target hletters (by decide), htrim]
  simp only [hends]
  rw [List.isEmpty_eq_false_iff.mpr hnonempty, Bool.false_or]
  rfl

/-- Several words are not read as a namespace. -/
theorem qualified?_words (hnonempty : name ≠ []) (hletters : ∀ c ∈ name, isWordChar c = true)
    {more : Text} (h : Phrase more) (rest : Text) :
    qualified? (name ++ ' ' :: (more ++ rest)) = none := by
  have hphrase : Phrase name := .word hnonempty hletters
  rw [qualified?, hphrase.trimStart_append]
  dsimp only
  rw [dropWhile_target hletters (by decide), Text.trimStart, List.dropWhile_cons_of_pos (by decide)]
  have htrim := h.trimStart_append rest
  rw [Text.trimStart] at htrim
  rw [htrim]
  have hhead := h.head?_append_ne (by decide : ':' ∈ marks) rest
  split
  · next hcolon => exact absurd (congrArg List.head? hcolon) hhead
  · rfl

/-- A name in front of a colon is read as a namespace if it is one word, there is a page behind the
colon and the link ends there. -/
theorem qualified?_phrase (h : Phrase name) (rest : Text) :
    qualified? (name ++ ':' :: rest)
      = if ' ' ∈ name ∨ pageOf rest = [] ∨ endsQualified (rest.dropWhile (!isOneOf "[]#|<>" ·)) = false
        then none else some (name, pageOf rest) := by
  cases h with
  | word nonempty letters =>
    have hspace : ' ' ∉ name := fun hmem => absurd (letters ' ' hmem) (by decide)
    rw [qualified?_word nonempty letters]
    simp [hspace]
  | words nonempty letters more =>
    rw [List.append_assoc, List.cons_append, qualified?_words nonempty letters more]
    simp

/-- The page of a target that is not empty is not empty. -/
theorem pageOf_ne_nil (htarget : target ≠ []) (hplain : ∀ c ∈ target, (!isOneOf "[]#|<>" c) = true) :
    pageOf target ≠ [] := by
  have htake : (Text.trimStart target).takeWhile (!isOneOf "[]#|<>" ·) = Text.trimStart target :=
    List.takeWhile_eq_self_iff.mpr fun c hc => hplain c ((List.dropWhile_suffix _).subset hc)
  rw [pageOf, htake]
  change (if target.trim.isEmpty then _ else target.trim) ≠ []
  by_cases htrim : target.trim = []
  · obtain ⟨left, right, hleft, hright, heq⟩ := Text.exists_eq_trim target
    rw [htrim, List.append_nil] at heq
    have hblank : target.takeWhile isWhiteSpace = target := by
      rw [heq]
      exact List.takeWhile_eq_self_iff.mpr (hleft.append hright)
    rw [htrim, hblank, List.isEmpty_nil, if_pos rfl, Ne, Option.toList_eq_nil_iff]
    exact mt List.getLast?_eq_none_iff.mp htarget
  · rw [List.isEmpty_eq_false_iff.mpr htrim, if_neg Bool.false_ne_true]
    exact htrim

/-- A phrase and a target without markup have none with a colon between them. -/
theorem Phrase.plain_append (h : Phrase name) (hplain : ∀ c ∈ target, (!isOneOf "[]#|<>" c) = true) :
    ∀ c ∈ name ++ ':' :: target, (!isOneOf "[]#|<>" c) = true := by
  intro c hc
  rcases List.mem_append.mp hc with hc | hc
  · rw [isOneOf_of_notMem (by decide) (h.notMem_marks c hc)]
    rfl
  · rcases List.mem_cons.mp hc with rfl | hc
    · decide
    · exact hplain c hc

/-- What is left of a text without its end is a prefix. -/
theorem prefix_dropWhileEnd (p : Char → Bool) (text : Text) : Text.dropWhileEnd p text <+: text := by
  rw [Text.dropWhileEnd_eq_rdropWhile]
  exact List.rdropWhile_prefix _ _

/-- Without a bar and without a colon in front, all of a content but what is at its margin is its
target. -/
theorem writtenTarget_of_head? {content : Text}
    (hfront : content.dropWhile (isOneOf " []") = content) (hbar : '|' ∉ content)
    (hhead : content.head? ≠ some ':') :
    writtenTarget content = Text.dropWhileEnd (isOneOf " []") content := by
  have hfrom := prefix_dropWhileEnd (isOneOf " []") content
  have htake : (Text.dropWhileEnd (isOneOf " []") content).takeWhile (· ≠ '|')
      = Text.dropWhileEnd (isOneOf " []") content := by
    apply List.takeWhile_eq_self_iff.mpr
    intro c hc
    rw [decide_eq_true_eq]
    rintro rfl
    exact hbar (hfrom.subset hc)
  rw [writtenTarget, hfront, htake]
  split
  · next tail hcolon =>
    obtain ⟨more, hmore⟩ := hfrom
    rw [hcolon] at hmore
    exact absurd (congrArg List.head? hmore.symm) hhead
  · rfl

/-- A qualified target is written as it stands, but for spaces and brackets at the end. -/
theorem writtenTarget_phrase (h : Phrase name)
    (hplain : ∀ c ∈ target, (!isOneOf "[]#|<>" c) = true) :
    writtenTarget (name ++ ':' :: target)
      = Text.dropWhileEnd (isOneOf " []") (name ++ ':' :: target) := by
  have hfront : (name ++ ':' :: target).dropWhile (isOneOf " []") = name ++ ':' :: target := by
    obtain ⟨c, tail, rfl, hc⟩ := h.exists_cons
    have hspace : " []".toList.any isWordChar = false := by decide
    apply List.dropWhile_cons_of_neg
    rw [isOneOf, List.contains_iff_mem]
    exact fun hmem => List.any_eq_false.mp hspace c hmem hc
  exact writtenTarget_of_head? hfront
    (fun hbar => absurd (h.plain_append hplain '|' hbar) (by decide))
    (h.head?_append_ne (by decide) _)

/-- Behind the name of a namespace nothing but its target is read. -/
theorem isUnlabelled_phrase (h : Phrase name) (hplain : ∀ c ∈ target, (!isOneOf "[]#|<>" c) = true) :
    isUnlabelled (name ++ ':' :: target) = true := by
  have hpass := h.plain_append hplain
  rw [isUnlabelled, h.trimStart_append, List.dropWhile_eq_nil_iff.mpr hpass,
    List.takeWhile_eq_self_iff.mpr hpass]
  simp [endsQualified]

/-- In front of a caption the target of the link is the whole of what is before the bar. -/
theorem isUnlabelled_phrase_bar (h : Phrase name)
    (hplain : ∀ c ∈ target, (!isOneOf "[]#|<>" c) = true) (hcaption : caption ≠ []) :
    isUnlabelled (name ++ ':' :: (target ++ '|' :: caption)) = false := by
  have hpass := h.plain_append hplain
  have hends : (name ++ ':' :: (target ++ '|' :: caption)).dropWhile (!isOneOf "[]#|<>" ·)
      = '|' :: caption := by
    rw [← List.cons_append, ← List.append_assoc, dropWhile_target hpass (by decide)]
  rw [isUnlabelled, h.trimStart_append, hends, endsQualified_bar hcaption, Bool.false_and]

/-! ## With and without a caption -/

variable {namespaces : Namespaces}

/-- A link to a file without a caption is hidden if the name of the namespace is one word. -/
theorem read_phrase (hname : name ∈ namespaces.files) (h : Phrase name) (htarget : target ≠ [])
    (hplain : ∀ c ∈ target, (!isOneOf "[]#|<>" c) = true) :
    read namespaces (name ++ ':' :: target)
      = if namespaces.isCategory (name ++ ':' :: target) then .category
        else if ' ' ∈ name then .shown (Text.dropWhileEnd (isOneOf " []") (name ++ ':' :: target))
        else .hidden := by
  have hend : target.dropWhile (!isOneOf "[]#|<>" ·) = [] := List.dropWhile_eq_nil_iff.mpr hplain
  rw [read, plainTarget?_phrase h, qualified?_phrase h, hend, isUnlabelled_phrase h hplain,
    writtenTarget_phrase h hplain]
  by_cases hspace : ' ' ∈ name
  · simp [hspace]
  · simp [hspace, pageOf_ne_nil htarget hplain, endsQualified, isFile_phrase hname h]

/-- A link to a file with a caption is hidden, if the caption describes nothing. -/
theorem readPiped_phrase (hname : name ∈ namespaces.files) (h : Phrase name)
    (hplain : ∀ c ∈ target, (!isOneOf "[]#|<>" c) = true) (hopen : '[' ∉ caption)
    (hclose : ']' ∉ caption) (hdescription : description? caption = none) :
    readPiped namespaces (name ++ ':' :: target) [caption] = .hidden := by
  have hmarks : (name ++ ':' :: target).any (isOneOf "[]|<>") = false := by
    rw [List.any_eq_false]
    intro c hc hone
    have hpass := h.plain_append hplain c hc
    rw [Bool.not_eq_true', isOneOf, List.contains_eq_mem, decide_eq_false_iff_not] at hpass
    rw [isOneOf, List.contains_iff_mem] at hone
    exact hpass ((by decide : "[]|<>".toList ⊆ "[]#|<>".toList) hone)
  have hpair : ∀ c, c ∉ caption → Text.occursIn [c, c] caption = false := fun c hc =>
    Text.occursIn_eq_false_iff.mpr (Text.not_pair_infix_of_notMem hc c)
  rw [readPiped, hmarks]
  simp [hpair '[' hopen, hpair ']' hclose, isFile_phrase hname h, readImage, hdescription]

/-- A link to a file with a caption is hidden. -/
theorem read_phrase_bar (hname : name ∈ namespaces.files) (h : Phrase name)
    (hplain : ∀ c ∈ target, (!isOneOf "[]#|<>" c) = true) (hcaption : caption ≠ [])
    (hopen : '[' ∉ caption) (hclose : ']' ∉ caption) (hbar : '|' ∉ caption)
    (hdescription : description? caption = none) :
    read namespaces (name ++ ':' :: (target ++ '|' :: caption))
      = if namespaces.isCategory (name ++ ':' :: (target ++ '|' :: caption)) then .category
        else .hidden := by
  have hqualified : qualified? (name ++ ':' :: (target ++ '|' :: caption)) = none := by
    rw [qualified?_phrase h, dropWhile_target hplain (by decide), endsQualified_bar hcaption]
    simp
  have hpass := h.plain_append hplain
  have hmarks : ∀ mark, (!isOneOf "[]#|<>" mark) = false → mark ∉ name ++ ':' :: target := by
    intro mark hmark hmem
    rw [hpass mark hmem] at hmark
    cases hmark
  have hsplit : splitBars 0 (name ++ ':' :: (target ++ '|' :: caption))
      = [name ++ ':' :: target, caption] := by
    rw [← List.cons_append, ← List.append_assoc, splitBars_append_bar (hmarks '[' (by decide))
      (hmarks ']' (by decide)) (hmarks '|' (by decide)), splitBars_of_notMem hbar]
  rw [read, plainTarget?_phrase h, hqualified, isUnlabelled_phrase_bar h hplain hcaption, hsplit]
  simp only [readPiped_phrase hname h hplain hopen hclose hdescription, Bool.false_eq_true, if_false]

/-- **What becomes of a link to a file.** If its namespace has a name of one word, the link is replaced
by nothing, with or without a caption. If the name has several words, this holds of the link with a
caption only: without one its target is shown, cleaned. A category comes first in any case; it is one
exactly if the name, in capital or small letters, is that of a category, unless such a name has a colon
itself. -/
theorem classify_file (hname : name ∈ namespaces.files) (hphrase : Phrase name)
    (htarget : target ≠ []) (hplain : ∀ c ∈ target, c ∉ "[]#|<>".toList) {ε : Type}
    (clean : Text → Traced ε Text) :
    (classify namespaces clean (name ++ ':' :: target)
      = if namespaces.isCategory (name ++ ':' :: target) then pure .drop
        else if ' ' ∈ name then do
          let text ← clean (Text.dropWhileEnd (isOneOf " []") (name ++ ':' :: target))
          return .replace text
        else pure (.replace [])) ∧
    (∀ caption, caption ≠ [] → '[' ∉ caption → ']' ∉ caption → '|' ∉ caption →
      description? caption = none →
      classify namespaces clean (name ++ ':' :: (target ++ '|' :: caption))
        = if namespaces.isCategory (name ++ ':' :: (target ++ '|' :: caption)) then pure .drop
          else pure (.replace [])) ∧
    ((∀ category ∈ namespaces.categories, ':' ∉ category) → ∀ rest, rest ≠ [] → ']' ∉ rest →
      (namespaces.isCategory (name ++ ':' :: rest) = true ↔
        ∃ category ∈ namespaces.categories, List.Forall₂ (sameLetter · · = true) category name)) := by
  have hpass : ∀ c ∈ target, (!isOneOf "[]#|<>" c) = true := by
    intro c hc
    rw [isOneOf, List.contains_eq_mem, decide_eq_false (hplain c hc)]
    rfl
  refine ⟨?_, ?_, ?_⟩
  · rw [classify, read_phrase hname hphrase htarget hpass, apply_ite (Reading.act clean),
      apply_ite (Reading.act clean)]
    rfl
  · intro caption hcaption hopen hclose hbar hdescription
    rw [classify, read_phrase_bar hname hphrase hpass hcaption hopen hclose hbar hdescription,
      apply_ite (Reading.act clean)]
    rfl
  · intro hcolon rest hrest hclose
    exact isCategory_phrase hcolon hphrase hrest hclose

/-- The canonical name of files is one word. -/
theorem classify_file_canonical :
    "File".toList ∈ Namespaces.canonical.files ∧ Phrase "File".toList ∧
      (∀ c ∈ "a.jpg".toList, c ∉ "[]#|<>".toList) ∧
      classify .canonical (pure : Text → Traced Empty Text) "File:a.jpg".toList
        = pure (.replace []) := by
  have hname : "File".toList ∈ Namespaces.canonical.files := by decide
  have hphrase : Phrase "File".toList := .word (by decide) (List.all_eq_true.mp (by decide))
  have hplain : ∀ c ∈ "a.jpg".toList, c ∉ "[]#|<>".toList := by simp
  obtain ⟨hplainly, -, -⟩ := classify_file hname hphrase (by decide : "a.jpg".toList ≠ []) hplain
    (pure : Text → Traced Empty Text)
  exact ⟨hname, hphrase, hplain, hplainly⟩

/-- A link without a caption is not replaced by nothing whenever its namespace is one of files: if the
name has two words, the target is shown. -/
theorem classify_file_two_words :
    ¬ ∀ (namespaces : Namespaces) (name target : Text) (clean : Text → Traced Empty Text),
      name ∈ namespaces.files → Phrase name →
      (∀ category ∈ namespaces.categories, ¬ List.Forall₂ (sameLetter · · = true) category name) →
      target ≠ [] → (∀ c ∈ target, c ∉ "[]#|<>".toList) →
      classify namespaces clean (name ++ ':' :: target) = pure (.replace []) := by
  intro h
  have hphrase : Phrase "Mi archivo".toList :=
    @Phrase.words "Mi".toList "archivo".toList (by decide) (List.all_eq_true.mp (by decide))
      (.word (by decide) (List.all_eq_true.mp (by decide)))
  have hcategory : ∀ category ∈ (Namespaces.ofNames ["Mi archivo".toList] []).categories,
      ¬ List.Forall₂ (sameLetter · · = true) category "Mi archivo".toList := by
    intro category hcategory hsame
    obtain rfl : category = "Category".toList := List.mem_singleton.mp hcategory
    exact absurd hsame.length_eq (by decide)
  have hclassify := h (.ofNames ["Mi archivo".toList] []) "Mi archivo".toList "a.jpg".toList pure
    (by decide) hphrase hcategory (by decide) (by simp)
  exact absurd (congrArg Traced.value hclassify) (by decide +kernel)

end WikiText.Link
