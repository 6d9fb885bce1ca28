import WikiText.Proofs.Emphasis
import WikiText.Proofs.Link.Addresses
import WikiText.Proofs.Openers.Passes

/-!
# External links to the last

An external link stands between brackets and begins with an address (`ExternalLink`), and a text holds one
exactly when the scanner finds one (`hasExternal_iff`). What is shown for a link has no brackets. So a
pass takes as many opening as closing brackets away, one of each for every link
(`exists_count_externalPass`), and there are no more passes than opening brackets: the last one leaves a
text without links, and not the budget but the links decide which one is the last.

The address goes and the words behind it stay (`resolveExternal_labelled`), provided that the pattern of
links and the table of schemes agree on what an address is.
-/

namespace WikiText.Link

open Scanner
open Unicode (isWhiteSpace)

/-! ## Links as they are written -/

/-- What may stand before the two slashes of an address. -/
def schemesBeforeSlashes : List Text :=
  ["", "http:", "https:", "mailto:"].map String.toList

/-- There are four ways to begin an address that has two slashes. -/
theorem mem_schemesBeforeSlashes {scheme : Text} :
    scheme ∈ schemesBeforeSlashes ↔ scheme = "".toList ∨ scheme = "http:".toList ∨
      scheme = "https:".toList ∨ scheme = "mailto:".toList := by
  simp only [schemesBeforeSlashes, List.map_cons, List.map_nil, List.mem_cons, List.not_mem_nil, or_false]

/-- An external link, by the parts between its brackets. -/
structure ExternalLink where
  /-- The white space before the address. -/
  blank : Text
  /-- The scheme before the two slashes, if there is one. -/
  scheme : Text
  /-- What follows the slashes, up to the closing bracket. -/
  rest : Text
  blank_blank : Text.Blank blank
  scheme_mem : scheme ∈ schemesBeforeSlashes
  rest_ne_nil : rest ≠ []
  open_notMem : '[' ∉ rest
  close_notMem : ']' ∉ rest

namespace ExternalLink

/-- The text between the brackets of an external link. -/
def content (link : ExternalLink) : Text :=
  link.blank ++ (link.scheme ++ '/' :: '/' :: link.rest)

/-- An external link as it is written. -/
def source (link : ExternalLink) : Text :=
  '[' :: (link.content ++ [']'])

end ExternalLink

/-- Whether an external link stands somewhere in a text. -/
def HoldsExternal (text : Text) : Prop :=
  ∃ link : ExternalLink, link.source <:+: text

/-- A text begins with an address when two slashes follow the scheme, and something follows these. -/
theorem beginsWithAddress_iff {text : Text} :
    beginsWithAddress text = true ↔
      ∃ scheme ∈ schemesBeforeSlashes, ∃ rest ≠ [], text = scheme ++ '/' :: '/' :: rest := by
  constructor
  · intro hstart
    obtain ⟨_, hrun⟩ := Option.isSome_iff_exists.mp hstart
    obtain ⟨_, middle, hscheme, hrun⟩ := exists_of_bind hrun
    obtain ⟨_, last, hslashes, hrun⟩ := exists_of_bind hrun
    obtain ⟨c, left, hany, -⟩ := exists_of_bind hrun
    obtain rfl : middle = '/' :: '/' :: last := run_matching_beq.mp hslashes
    obtain ⟨-, rfl⟩ := run_satisfy_eq_some.mp hany
    rcases exists_of_orElse hscheme with hfirst | hnone
    · obtain ⟨front, scanner, back, hlist, -, hread⟩ := exists_of_firstOf hfirst
      have hmem : scanner ∈ [exactly "http:", exactly "https:", exactly "mailto:"] :=
        hlist ▸ List.mem_append_right front List.mem_cons_self
      obtain ⟨name, hname, rfl⟩ : ∃ name ∈ ["http:", "https:", "mailto:"], exactly name = scanner :=
        List.mem_map.mp hmem
      exact ⟨name.toList, List.mem_map_of_mem (List.mem_cons_of_mem _ hname), c :: left,
        List.cons_ne_nil c left, run_matching_beq.mp hread⟩
    · cases hnone
      exact ⟨[], List.mem_cons_self, c :: left, List.cons_ne_nil c left, rfl⟩
  · rintro ⟨scheme, hscheme, rest, hrest, rfl⟩
    obtain ⟨c, left, rfl⟩ := List.exists_cons_of_ne_nil hrest
    rcases mem_schemesBeforeSlashes.mp hscheme with rfl | rfl | rfl | rfl <;> rfl

/-- What stands before the closing bracket is a link exactly if it begins with an address. -/
theorem run_external_append {content : Text} (hopen : '[' ∉ content) (hclose : ']' ∉ content)
    (left : Text) :
    external.body.run (content ++ ']' :: left)
      = if beginsWithAddress (Text.trimStart content) then some (content, left) else none := by
  have hall : ∀ c ∈ content, (c ≠ '[' && c ≠ ']') = true := by
    intro c hc
    simp only [Bool.and_eq_true, decide_eq_true_eq]
    exact ⟨fun heq => hopen (heq ▸ hc), fun heq => hclose (heq ▸ hc)⟩
  have hread : (takeWhile fun c => c ≠ '[' && c ≠ ']').run (content ++ ']' :: left)
      = some (content, ']' :: left) := by
    simp only [takeWhile, List.takeWhile_append_of_pos hall, List.dropWhile_append_of_pos hall]
    simp
  have hbody : external.body.run (content ++ ']' :: left)
      = (ofOption (if beginsWithAddress (Text.trimStart content) then some content else none)).run left :=
    (run_bind_of_eq_some hread).trans (run_bind_of_eq_some (run_one_self ']' left))
  rw [hbody]
  split <;> rfl

/-- The body of a link is read up to the first bracket, which closes the link. -/
theorem run_external {tail content left : Text} :
    external.body.run tail = some (content, left) ↔
      tail = content ++ ']' :: left ∧ '[' ∉ content ∧ ']' ∉ content ∧
        beginsWithAddress (Text.trimStart content) = true := by
  constructor
  · intro hrun
    obtain ⟨front, middle, hread, hrun⟩ := exists_of_bind hrun
    obtain ⟨_, last, hclose, hrun⟩ := exists_of_bind hrun
    obtain ⟨haddress, rfl⟩ := run_ofOption_eq_some.mp hrun
    obtain rfl := run_one_eq_some.mp hclose
    obtain ⟨hbegins, rfl⟩ : beginsWithAddress (Text.trimStart front) = true ∧ front = content := by
      simpa using haddress
    obtain ⟨hfront, hlast⟩ := Prod.mk.inj (Option.some.inj hread)
    have hunbracketed : ∀ c ∈ front, c ≠ '[' ∧ c ≠ ']' := by
      intro c hc
      rw [← hfront] at hc
      simpa using List.mem_takeWhile_imp hc
    have htail : front ++ ']' :: last = tail := by
      rw [← hfront, ← hlast]
      exact List.takeWhile_append_dropWhile
    exact ⟨htail.symm, fun hmem => (hunbracketed _ hmem).1 rfl, fun hmem => (hunbracketed _ hmem).2 rfl,
      hbegins⟩
  · rintro ⟨rfl, hopen, hclose, hbegins⟩
    rw [run_external_append hopen hclose, if_pos hbegins]

/-- A content without brackets that begins with an address is that of an external link. -/
theorem exists_externalLink {content : Text} (hopen : '[' ∉ content) (hclose : ']' ∉ content)
    (hbegins : beginsWithAddress (Text.trimStart content) = true) :
    ∃ link : ExternalLink, link.content = content := by
  obtain ⟨scheme, hscheme, rest, hrest, htrim⟩ := beginsWithAddress_iff.mp hbegins
  have hcontent : content.takeWhile isWhiteSpace ++ (scheme ++ '/' :: '/' :: rest) = content := by
    rw [← htrim]
    exact List.takeWhile_append_dropWhile
  have hsubset : ∀ c ∈ rest, c ∈ content := by
    intro c hc
    rw [← hcontent]
    simp [hc]
  exact ⟨⟨content.takeWhile isWhiteSpace, scheme, rest, Text.blank_takeWhile content, hscheme, hrest,
    fun hmem => hopen (hsubset _ hmem), fun hmem => hclose (hsubset _ hmem)⟩, hcontent⟩

namespace ExternalLink

/-- Without the white space in front a link begins with its scheme. -/
theorem trimStart_content (link : ExternalLink) :
    Text.trimStart link.content = link.scheme ++ '/' :: '/' :: link.rest := by
  rw [Text.trimStart, content, List.dropWhile_append_of_pos link.blank_blank]
  rcases mem_schemesBeforeSlashes.mp link.scheme_mem with hscheme | hscheme | hscheme | hscheme <;>
    rw [hscheme] <;> rfl

/-- An external link has no brackets within it. -/
theorem notMem_content (link : ExternalLink) : '[' ∉ link.content ∧ ']' ∉ link.content := by
  have hblank : ∀ c, isWhiteSpace c = false → c ∉ link.blank := by
    intro c hc hmem
    rw [link.blank_blank c hmem] at hc
    cases hc
  have hscheme : ∀ scheme ∈ schemesBeforeSlashes, '[' ∉ scheme ∧ ']' ∉ scheme := by decide
  obtain ⟨hopen, hclose⟩ := hscheme link.scheme link.scheme_mem
  simp only [content, List.mem_append, List.mem_cons, not_or]
  exact ⟨⟨hblank _ rfl, hopen, by decide, by decide, link.open_notMem⟩,
    ⟨hblank _ rfl, hclose, by decide, by decide, link.close_notMem⟩⟩

/-- A link is read up to its closing bracket. -/
theorem run_body (link : ExternalLink) (left : Text) :
    external.body.run (link.content ++ ']' :: left) = some (link.content, left) := by
  refine run_external.mpr ⟨rfl, link.notMem_content.1, link.notMem_content.2, ?_⟩
  rw [link.trimStart_content]
  exact beginsWithAddress_iff.mpr ⟨link.scheme, link.scheme_mem, link.rest, link.rest_ne_nil, rfl⟩

end ExternalLink

/-- A text holds a link exactly when the scanner finds one. -/
theorem hasExternal_iff {text : Text} : hasExternal text = true ↔ HoldsExternal text := by
  rw [hasExternal, Pattern.any_pieces (fun _ => rfl) fun _ => rfl, Pattern.occurs_iff]
  constructor
  · rintro ⟨tail, hsuffix, hsome⟩
    obtain ⟨⟨content, left⟩, hrun⟩ := Option.ne_none_iff_exists'.mp hsome
    obtain ⟨rfl, hopen, hclose, hbegins⟩ := run_external.mp hrun
    obtain ⟨link, hlink⟩ := exists_externalLink hopen hclose hbegins
    refine ⟨link, List.IsInfix.trans ⟨[], left, ?_⟩ hsuffix.isInfix⟩
    rw [ExternalLink.source, hlink]
    simp [external]
  · rintro ⟨link, before, after, rfl⟩
    refine ⟨link.content ++ ']' :: after, ⟨before, ?_⟩, ?_⟩
    · simp [external, ExternalLink.source]
    · rw [link.run_body]
      exact Option.some_ne_none _

/-! ## One pass -/

/-- One pass over a text, in which every link is replaced by what is shown for it. -/
def externalPass (text : Text) : Text :=
  external.replaceWith externalLabel text

/-- What is shown for a link are its words, with spaces between them. -/
theorem mem_externalLabel {content : Text} {c : Char} (hc : c ≠ ' ') (h : c ∈ externalLabel content) :
    c ∈ content := by
  have hwords : (dropAddresses content.words).flatten.Sublist content :=
    ((dropAddresses_suffix _).sublist.trans List.filter_sublist).flatten.trans
      (Text.flatten_split_sublist _ _)
  -- joining the words again adds spaces only
  have hjoined : ∀ words : List Text, c ∈ [' '].intercalate words → c ∈ words.flatten := by
    intro words
    induction words with
    | nil => exact fun hmem => hmem
    | cons word words ih =>
      cases words with
      | nil => simp
      | cons next words =>
        intro hmem
        rw [List.intercalate_cons_cons] at hmem
        rcases List.mem_append.mp hmem with hmem | hmem
        · rcases List.mem_append.mp hmem with hmem | hmem
          · exact List.mem_append_left _ hmem
          · exact absurd (List.mem_singleton.mp hmem) hc
        · exact List.mem_append_right _ (ih hmem)
  exact hwords.subset (hjoined _ h)

/-- A link is written with one opening and one closing bracket, and shown without brackets. -/
theorem count_link {tail content rest : Text} (h : external.body.run tail = some (content, rest))
    {bracket : Char} (hbracket : bracket ∈ ['[', ']']) :
    (external.opening :: tail).count bracket = rest.count bracket + 1 ∧
      (externalLabel content).count bracket = 0 := by
  obtain ⟨rfl, hopen, hclose, -⟩ := run_external.mp h
  have hcontent : bracket ∉ content := by
    rcases List.mem_pair.mp hbracket with rfl | rfl
    · exact hopen
    · exact hclose
  have hspace : bracket ≠ ' ' := by
    rintro rfl
    exact absurd hbracket (by decide)
  constructor
  · rw [List.count_cons, List.count_append, List.count_cons, List.count_eq_zero.mpr hcontent]
    rcases List.mem_pair.mp hbracket with rfl | rfl <;> simp [external]
  · exact List.count_eq_zero.mpr fun hmem => hcontent (mem_externalLabel hspace hmem)

/-- A pass takes one opening and one closing bracket away for each link that it finds. -/
theorem exists_count_externalPass (text : Text) :
    ∃ links, (HoldsExternal text → 0 < links) ∧
      ∀ bracket ∈ ['[', ']'], text.count bracket = (externalPass text).count bracket + links := by
  -- whether the text holds a link is said by the pattern, which the recursion is on
  suffices h : ∃ links, (external.occurs text = true → 0 < links) ∧
      ∀ bracket ∈ ['[', ']'], text.count bracket = (externalPass text).count bracket + links by
    obtain ⟨links, hfound, hcount⟩ := h
    refine ⟨links, fun hholds => hfound ?_, hcount⟩
    rwa [← hasExternal_iff, hasExternal, Pattern.any_pieces (fun _ => rfl) fun _ => rfl] at hholds
  unfold externalPass
  induction text using Pattern.pieces.induct external with
  | case1 =>
    rw [Pattern.replaceWith_nil]
    exact ⟨0, fun hoccurs => absurd hoccurs Bool.false_ne_true, fun _ _ => rfl⟩
  | case2 tail content rest hrun ih =>
    obtain ⟨links, -, hcount⟩ := ih
    refine ⟨links + 1, fun _ => Nat.succ_pos links, fun bracket hbracket => ?_⟩
    obtain ⟨hwritten, hshown⟩ := count_link hrun hbracket
    rw [Pattern.replaceWith_cons_of_some hrun, List.count_append, hwritten, hshown,
      hcount bracket hbracket]
    omega
  | case3 tail hnone ih =>
    obtain ⟨links, hfound, hcount⟩ := ih
    refine ⟨links, fun hoccurs => hfound ?_, fun bracket hbracket => ?_⟩
    · rwa [Pattern.occurs_cons_of_none hnone] at hoccurs
    · rw [Pattern.replaceWith_cons_of_none hnone, List.count_cons, List.count_cons,
        hcount bracket hbracket, Nat.add_right_comm]
  | case4 c tail hc ih =>
    obtain ⟨links, hfound, hcount⟩ := ih
    refine ⟨links, fun hoccurs => hfound ?_, fun bracket hbracket => ?_⟩
    · simpa [Pattern.occurs, hc] using hoccurs
    · rw [Pattern.replaceWith_cons_of_ne hc, List.count_cons, List.count_cons,
        hcount bracket hbracket, Nat.add_right_comm]

/-! ## The passes -/

/-- Passes are made until no link is left, if the budget is not smaller than their number. -/
theorem resolveExternalUpTo_eq {passes budget : ℕ} {text : Text} (hle : passes ≤ budget)
    (hlast : ¬ HoldsExternal (externalPass^[passes] text))
    (hearlier : ∀ earlier < passes, HoldsExternal (externalPass^[earlier] text)) :
    resolveExternalUpTo budget text = externalPass^[passes] text := by
  induction passes generalizing budget text with
  | zero =>
    cases budget with
    | zero => rfl
    | succ budget => exact if_neg fun hfound => hlast (hasExternal_iff.mp hfound)
  | succ passes ih =>
    obtain ⟨budget, rfl⟩ := Nat.exists_eq_succ_of_ne_zero (Nat.ne_zero_of_lt hle)
    have hfirst : hasExternal text = true := hasExternal_iff.mpr (hearlier 0 (Nat.succ_pos passes))
    rw [resolveExternalUpTo, if_pos hfirst]
    exact ih (Nat.le_of_succ_le_succ hle) hlast fun earlier hlt =>
      hearlier (earlier + 1) (Nat.succ_lt_succ hlt)

/-- The difference between opening and closing brackets is kept by every number of passes. -/
theorem count_iterate_externalPass (passes : ℕ) (text : Text) :
    ((externalPass^[passes] text).count '[' : ℤ) - (externalPass^[passes] text).count ']'
      = text.count '[' - text.count ']' := by
  induction passes generalizing text with
  | zero => rfl
  | succ passes ih =>
    obtain ⟨links, -, hcount⟩ := exists_count_externalPass text
    have hopens := hcount '[' (by decide)
    have hcloses := hcount ']' (by decide)
    rw [Function.iterate_succ_apply, ih]
    omega

/-- **External links are resolved to the last.** A pass that finds a link takes at least one opening and
as many closing brackets away, so that there is a last pass. What it leaves holds no link, whatever
completed another one on the way, and has as many opening brackets more than closing ones as the text had. -/
theorem resolveExternal_complete (text : Text) :
    (∀ held, HoldsExternal held → ∃ links > 0, ∀ bracket ∈ ['[', ']'],
      held.count bracket = (externalPass held).count bracket + links) ∧
    (∃ passes ≤ text.count '[', resolveExternal text = externalPass^[passes] text ∧
      ∀ earlier < passes, HoldsExternal (externalPass^[earlier] text)) ∧
    ((resolveExternal text).count '[' : ℤ) - (resolveExternal text).count ']'
      = text.count '[' - text.count ']' ∧
    ¬ HoldsExternal (resolveExternal text) ∧
    resolveExternal (resolveExternal text) = resolveExternal text ∧
    (¬ HoldsExternal text → resolveExternal text = text) := by
  have hpass : ∀ held, HoldsExternal held → ∃ links > 0, ∀ bracket ∈ ['[', ']'],
      held.count bracket = (externalPass held).count bracket + links := by
    intro held hheld
    obtain ⟨links, hfound, hcount⟩ := exists_count_externalPass held
    exact ⟨links, hfound hheld, hcount⟩
  have hless : ∀ held, HoldsExternal held → (externalPass held).count '[' < held.count '[' := by
    intro held hheld
    obtain ⟨links, hpos, hcount⟩ := hpass held hheld
    have hopens := hcount '[' (by decide)
    omega
  have hunheld : ∀ held, ¬ HoldsExternal held → resolveExternal held = held :=
    fun held hheld => resolveExternalUpTo_eq (Nat.zero_le _) hheld fun earlier hlt =>
      absurd hlt (Nat.not_lt_zero earlier)
  -- the number of opening brackets falls at every pass that finds a link, so it bounds the passes
  obtain ⟨passes, hle, hlast, hearlier⟩ := exists_last_pass (List.count '[') hless text
  have hresult : resolveExternal text = externalPass^[passes] text :=
    resolveExternalUpTo_eq hle hlast hearlier
  rw [hresult]
  exact ⟨hpass, ⟨passes, hle, rfl, hearlier⟩, count_iterate_externalPass passes text, hlast,
    hunheld _ hlast, fun hheld => hresult.symm.trans (hunheld text hheld)⟩

/-- The inner link completes the outer one, which the second pass resolves. -/
example : resolveExternal "[http://a [http://b c] d]".toList = "c d".toList := by
  decide +kernel

/-! ## Words -/

/-- White space in front adds no word. -/
theorem words_blank_append {blank : Text} (h : Text.Blank blank) (text : Text) :
    Text.words (blank ++ text) = Text.words text := by
  induction blank with
  | nil => rfl
  | cons c blank ih =>
    obtain ⟨hc, hblank⟩ := List.forall_mem_cons.mp h
    rw [List.cons_append, Text.words, Text.split_cons_of_pos hc]
    exact ih hblank

/-- A word goes up to the white space behind it. -/
theorem words_append {word rest : Text} (hink : Text.Inked word) (hne : word ≠ [])
    (hrest : ∀ c ∈ rest.head?, isWhiteSpace c = true) :
    Text.words (word ++ rest) = word :: Text.words rest := by
  have hword : (!word.isEmpty) = true := by simpa using hne
  cases rest with
  | nil =>
    rw [List.append_nil, Text.words, Text.split_of_forall hink]
    exact List.filter_cons_of_pos hword
  | cons c rest =>
    have hc : isWhiteSpace c = true := hrest c rfl
    rw [Text.words, Text.split_append_cons hink hc, List.filter_cons, if_pos hword, Text.words,
      Text.split_cons_of_pos hc]
    rfl

/-! ## Links with a label -/

/-- A part of a link without white space and brackets. -/
structure Solid (word : Text) : Prop where
  ne_nil : word ≠ []
  inked : Text.Inked word
  open_notMem : '[' ∉ word
  close_notMem : ']' ∉ word

/-- A word is solid exactly if it is not empty and has neither white space nor brackets. -/
theorem solid_iff {word : Text} :
    Solid word ↔
      word ≠ [] ∧ word.all (!isWhiteSpace ·) = true ∧ '[' ∉ word ∧ ']' ∉ word := by
  constructor
  · intro h
    exact ⟨h.ne_nil, List.all_eq_true.mpr fun c hc => by simp [h.inked c hc], h.open_notMem,
      h.close_notMem⟩
  · rintro ⟨hne, hink, hopen, hclose⟩
    exact ⟨hne, fun c hc => by simpa using List.all_eq_true.mp hink c hc, hopen, hclose⟩

instance (word : Text) : Decidable (Solid word) :=
  decidable_of_iff _ solid_iff.symm

/-- The schemes of the addresses in links with a label. -/
def addressSchemes : List Text :=
  ["http://", "https://", "mailto:", "//"].map String.toList

/-- An external link with an address and words behind it. -/
structure LabelledLink where
  /-- The scheme of the address. -/
  scheme : Text
  /-- The address behind its scheme. -/
  address : Text
  /-- The words of the label, each with the white space before it. -/
  words : List (Text × Text)
  scheme_mem : scheme ∈ addressSchemes
  solid_address : Solid address
  words_ne_nil : words ≠ []
  blank_of_mem : ∀ word ∈ words, word.1 ≠ [] ∧ Text.Blank word.1
  solid_of_mem : ∀ word ∈ words, Solid word.2
  /-- The label does not begin with another address. -/
  unschemed : ∀ word ∈ words.head?, startsWithScheme word.2 = false

namespace LabelledLink

/-- Words with the white space before each of them. -/
def spaced (words : List (Text × Text)) : Text :=
  words.flatMap fun word => word.1 ++ word.2

/-- The text between the brackets of the link. -/
def content (link : LabelledLink) : Text :=
  link.scheme ++ link.address ++ spaced link.words

/-- The link as it is written. -/
def source (link : LabelledLink) : Text :=
  '[' :: (link.content ++ [']'])

/-- The words of the label with single spaces between them. -/
def label (link : LabelledLink) : Text :=
  [' '].intercalate (link.words.map Prod.snd)

section Spaced

variable {words : List (Text × Text)} (hblank : ∀ word ∈ words, word.1 ≠ [] ∧ Text.Blank word.1)
  (hsolid : ∀ word ∈ words, Solid word.2)

include hblank hsolid

/-- The words are found again in the text that they are written in. -/
theorem words_spaced :
    (∀ c ∈ (spaced words).head?, isWhiteSpace c = true) ∧
      Text.words (spaced words) = words.map Prod.snd := by
  induction words with
  | nil => exact ⟨fun c hc => absurd hc (by simp [spaced]), rfl⟩
  | cons first words ih =>
    obtain ⟨⟨hne, hfirst⟩, hblanks⟩ := List.forall_mem_cons.mp hblank
    obtain ⟨hword, hwords⟩ := List.forall_mem_cons.mp hsolid
    obtain ⟨hhead, hrest⟩ := ih hblanks hwords
    have hcons : spaced (first :: words) = first.1 ++ (first.2 ++ spaced words) := by
      simp [spaced]
    rw [hcons]
    constructor
    · intro c hc
      rw [List.head?_append_of_ne_nil _ hne] at hc
      exact hfirst c (List.mem_of_mem_head? hc)
    · rw [words_blank_append hfirst, words_append hword.inked hword.ne_nil hhead, hrest]
      rfl

/-- Words and the white space between them have no brackets. -/
theorem notMem_spaced : '[' ∉ spaced words ∧ ']' ∉ spaced words := by
  have hnot : ∀ c, isWhiteSpace c = false → (∀ word ∈ words, c ∉ word.2) → c ∉ spaced words := by
    intro c hc hwords hmem
    obtain ⟨word, hword, hmem⟩ := List.mem_flatMap.mp hmem
    rcases List.mem_append.mp hmem with hmem | hmem
    · rw [(hblank word hword).2 c hmem] at hc
      cases hc
    · exact hwords word hword hmem
  exact ⟨hnot _ rfl fun word hword => (hsolid word hword).open_notMem,
    hnot _ rfl fun word hword => (hsolid word hword).close_notMem⟩

end Spaced

variable (link : LabelledLink)

/-- A labelled link has no brackets within it. -/
theorem notMem_content : '[' ∉ link.content ∧ ']' ∉ link.content := by
  have hscheme : ∀ scheme ∈ addressSchemes, '[' ∉ scheme ∧ ']' ∉ scheme := by decide
  obtain ⟨hopen, hclose⟩ := hscheme link.scheme link.scheme_mem
  obtain ⟨hopens, hcloses⟩ := notMem_spaced link.blank_of_mem link.solid_of_mem
  simp only [content, List.mem_append, not_or]
  exact ⟨⟨⟨hopen, link.solid_address.open_notMem⟩, hopens⟩,
    ⟨⟨hclose, link.solid_address.close_notMem⟩, hcloses⟩⟩

/-- A scheme neither begins nor ends in white space. -/
theorem inked_scheme : Text.Inked link.scheme := by
  have hscheme : ∀ scheme ∈ addressSchemes, scheme.all (!isWhiteSpace ·) = true := by decide
  intro c hc
  simpa using List.all_eq_true.mp (hscheme link.scheme link.scheme_mem) c hc

/-- An address begins with its scheme. -/
theorem startsWithScheme_address : startsWithScheme (link.scheme ++ link.address) = true := by
  have hschemes : ∀ scheme ∈ addressSchemes,
      ∃ known ∈ schemes, known.toList = scheme ∧ scheme.map Char.toLower = scheme := by decide
  obtain ⟨known, hknown, hname, hlower⟩ := hschemes link.scheme link.scheme_mem
  rw [startsWithScheme, List.any_eq_true]
  refine ⟨known, hknown, ?_⟩
  rw [List.map_append, hlower, hname, List.isPrefixOf_iff_prefix]
  exact List.prefix_append _ _

/-- The address is left out and the words behind it are shown. -/
theorem externalLabel_content : externalLabel link.content = link.label := by
  obtain ⟨hhead, hwords⟩ := words_spaced link.blank_of_mem link.solid_of_mem
  have haddress : Text.Inked (link.scheme ++ link.address) := by
    intro c hc
    rcases List.mem_append.mp hc with hc | hc
    · exact link.inked_scheme c hc
    · exact link.solid_address.inked c hc
  have hne : link.scheme ++ link.address ≠ [] :=
    List.append_ne_nil_of_right_ne_nil _ link.solid_address.ne_nil
  rw [externalLabel, content, words_append haddress hne hhead, hwords, label]
  obtain ⟨first, more, hcons⟩ := List.exists_cons_of_ne_nil link.words_ne_nil
  have hfirst : startsWithScheme first.2 = false := link.unschemed first (by rw [hcons]; rfl)
  rw [hcons, List.map_cons, dropAddresses, if_pos link.startsWithScheme_address]
  cases more with
  | nil => rfl
  | cons next more => rw [List.map_cons, dropAddresses, if_neg (Bool.eq_false_iff.mp hfirst)]

/-- A labelled link has no white space in front. -/
theorem trimStart_content : Text.trimStart link.content = link.content := by
  have hne : link.scheme ≠ [] := by
    have hschemes : ∀ scheme ∈ addressSchemes, scheme ≠ [] := by decide
    exact hschemes link.scheme link.scheme_mem
  obtain ⟨c, rest, hscheme⟩ := List.exists_cons_of_ne_nil hne
  have hc : isWhiteSpace c = false := link.inked_scheme c (by rw [hscheme]; exact List.mem_cons_self)
  rw [content, hscheme]
  exact List.dropWhile_cons_of_neg (Bool.eq_false_iff.mp hc)

/-- What follows the scheme of mail begins with two slashes exactly when the address does: white space
stands behind the address. -/
theorem prefix_append_spaced_iff :
    ['/', '/'] <+: link.address ++ spaced link.words ↔ ['/', '/'] <+: link.address := by
  refine ⟨fun hprefix => ?_, fun hprefix => hprefix.trans (List.prefix_append _ _)⟩
  obtain ⟨c, address, haddress⟩ := List.exists_cons_of_ne_nil link.solid_address.ne_nil
  obtain ⟨hhead, -⟩ := words_spaced link.blank_of_mem link.solid_of_mem
  rw [haddress, List.cons_append, List.cons_prefix_cons] at hprefix
  rw [haddress, List.cons_prefix_cons]
  refine hprefix.imp_right fun hsecond => ?_
  -- an address of one character would need white space to be a slash
  cases address with
  | nil =>
    obtain ⟨rest, hrest⟩ := hsecond
    have hslash : isWhiteSpace '/' = true := hhead '/' (by rw [← List.nil_append (spaced _), ← hrest]; rfl)
    exact absurd hslash (by decide)
  | cons d address =>
    rw [List.cons_append, List.cons_prefix_cons] at hsecond
    rw [List.cons_prefix_cons]
    exact ⟨hsecond.1, List.nil_prefix⟩

/-- What begins with the scheme of mail is an address only if two slashes follow the scheme. -/
theorem beginsWithAddress_content :
    beginsWithAddress link.content = true ↔
      (link.scheme = "mailto:".toList → ['/', '/'] <+: link.address) := by
  have hspaced : spaced link.words ≠ [] := by
    obtain ⟨first, more, hcons⟩ := List.exists_cons_of_ne_nil link.words_ne_nil
    have hfirst := link.blank_of_mem first (by rw [hcons]; exact List.mem_cons_self)
    rw [hcons, spaced, List.flatMap_cons]
    simp [hfirst.1]
  rw [beginsWithAddress_iff]
  by_cases hmail : link.scheme = "mailto:".toList
  · have hcontent : link.content = "mailto:".toList ++ (link.address ++ spaced link.words) := by
      rw [content, hmail, List.append_assoc]
    rw [hcontent, forall_prop_of_true hmail]
    constructor
    · rintro ⟨scheme, hscheme, rest, -, heq⟩
      -- the other schemes do not begin with the same letter
      rcases mem_schemesBeforeSlashes.mp hscheme with rfl | rfl | rfl | rfl
      · exact absurd (List.cons.inj heq).1 (by decide)
      · exact absurd (List.cons.inj heq).1 (by decide)
      · exact absurd (List.cons.inj heq).1 (by decide)
      · exact link.prefix_append_spaced_iff.mp ⟨rest, (List.append_cancel_left heq).symm⟩
    · rintro ⟨more, hmore⟩
      refine ⟨"mailto:".toList, by decide, more ++ spaced link.words,
        List.append_ne_nil_of_right_ne_nil _ hspaced, ?_⟩
      rw [← hmore]
      rfl
  -- every other scheme of an address has the slashes in it
  · have hslashes : ∀ scheme ∈ addressSchemes, scheme ≠ "mailto:".toList →
        ∃ name ∈ schemesBeforeSlashes, scheme = name ++ ['/', '/'] := by
      decide
    obtain ⟨name, hname, hscheme⟩ := hslashes link.scheme link.scheme_mem hmail
    refine ⟨fun _ hmail' => absurd hmail' hmail, fun _ => ⟨name, hname, link.address ++ spaced link.words,
      List.append_ne_nil_of_right_ne_nil _ hspaced, ?_⟩⟩
    rw [content, hscheme]
    simp

end LabelledLink

/-- **A link shows its label**, the words behind the address with single spaces between them, exactly if the
pattern of links takes the address for one. That is so for every scheme but that of mail; with this one
two slashes have to follow, and otherwise the link stays as it is written. -/
theorem resolveExternal_labelled (link : LabelledLink) :
    resolveExternal link.source
      = if link.scheme = "mailto:".toList ∧ ¬ ['/', '/'] <+: link.address then link.source
        else link.label := by
  obtain ⟨hopen, hclose⟩ := link.notMem_content
  have hrun : external.body.run (link.content ++ [']'])
      = if beginsWithAddress link.content then some (link.content, []) else none := by
    rw [run_external_append hopen hclose, link.trimStart_content]
  have hbegins : beginsWithAddress link.content = true ↔
      ¬ (link.scheme = "mailto:".toList ∧ ¬ ['/', '/'] <+: link.address) := by
    rw [link.beginsWithAddress_content, not_and_not_right]
  split
  · next hmail =>
    rw [if_neg fun htrue => hbegins.mp htrue hmail] at hrun
    apply resolveExternal_of_not_occurs
    rw [LabelledLink.source, Pattern.occurs_cons_of_none hrun]
    exact Pattern.not_occurs_of_notMem (by simp [external, hopen])
  -- the link is the whole text, so one pass shows its label, in which no link is left
  · next haddress =>
    rw [if_pos (hbegins.mpr haddress)] at hrun
    have hpieces : external.pieces link.source = [.found link.content] := by
      have hcut := Pattern.pieces_cons_of_some hrun
      rwa [Pattern.pieces] at hcut
    have hfound : hasExternal link.source = true := by
      rw [hasExternal, hpieces]
      rfl
    have hpass : external.replaceWith externalLabel link.source = link.label := by
      rw [Pattern.replaceWith_eq, hpieces, ← link.externalLabel_content]
      exact List.append_nil _
    have hcount : link.source.count '[' = 1 := by
      simp [LabelledLink.source, List.count_eq_zero.mpr hopen]
    rw [resolveExternal, hcount, resolveExternalUpTo, if_pos hfound, hpass, resolveExternalUpTo]

/-- The scheme of mail stands before an address without slashes, and such a link is not resolved. -/
theorem resolveExternal_mail :
    ¬ ∀ link : LabelledLink, resolveExternal link.source = link.label := by
  intro h
  have hlink : resolveExternal "[mailto:me@example.org mail]".toList = "mail".toList := h
    { scheme := "mailto:".toList
      address := "me@example.org".toList
      words := [([' '], "mail".toList)]
      scheme_mem := by decide
      solid_address := by decide
      words_ne_nil := List.cons_ne_nil _ _
      blank_of_mem := List.forall_mem_singleton.mpr
        ⟨List.cons_ne_nil _ _, fun c hc => List.mem_singleton.mp hc ▸ rfl⟩
      solid_of_mem := List.forall_mem_singleton.mpr (by decide)
      unschemed := fun word hword => Option.mem_some_iff.mp hword ▸ by decide }
  exact absurd hlink (by decide +kernel)

end WikiText.Link
