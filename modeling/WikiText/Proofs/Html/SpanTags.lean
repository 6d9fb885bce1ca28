import WikiText.Proofs.Html.Tag
import WikiText.Proofs.Text.Pattern
import WikiText.Proofs.Text.Squeeze
import WikiText.Proofs.Unicode.CaseFold

/-!
# The tags of spans

What stands between the brackets of a tag holds no closing bracket, so that a tag ends at the first one, and
no text is both an opening and a closing tag (`SpanTag.Inside.kind_eq`). So `spanTag` cuts a text into just the
tags of its spans and the characters between them (`run_spanTag`).

Whether a tag begins at a place is decided by what comes up to the next closing bracket
(`run_spanTag_eq_none_of_append`), and no tag is made when white space is squeezed
(`occurs_spanTag_of_squeeze`).
-/

namespace WikiText.Html

open Scanner
open Unicode (Caseless isWhiteSpace isWordChar sameLetter)

/-- The two kinds of tags of a span. -/
inductive SpanTag where
  | opening
  | closing
  deriving DecidableEq, Repr

namespace SpanTag

/-- What stands between the brackets of a tag of a span. -/
inductive Inside : SpanTag → Text → Prop
  | opening {name attributes : Text} (hname : List.Forall₂ (sameLetter · · = true) "span".toList name)
    (hword : attributes.head?.any isWordChar = false) (hunended : '>' ∉ attributes) :
    Inside .opening (name ++ attributes)
  | closing {name blank : Text} (hname : List.Forall₂ (sameLetter · · = true) "span".toList name)
    (hblank : Text.Blank blank) : Inside .closing ('/' :: (name ++ blank))

variable {kind kind' : SpanTag} {inside : Text}

/-- A name has no characters but the letters of `span`. -/
theorem notMem_name {name : Text} (hname : List.Forall₂ (sameLetter · · = true) "span".toList name)
    {c : Char} (hc : Caseless c) (hletter : c ∉ "span".toList) : c ∉ name :=
  notMem_of_agree hname fun _ hd => hc.sameLetter_eq_false fun heq => hletter (heq ▸ hd)

/-- The name of the tag neither begins nor ends in white space, in any case. -/
theorem inked_name {name : Text} (hname : List.Forall₂ (sameLetter · · = true) "span".toList name) :
    Text.Inked name := by
  have hink : "span".toList.all (!isWhiteSpace ·) = true := by decide
  intro c hc
  by_contra hspace
  have hcaseless := Unicode.caseless_of_isWhiteSpace (eq_true_of_ne_false hspace)
  refine notMem_name hname hcaseless (fun hletter => hspace ?_) hc
  simpa using List.all_eq_true.mp hink c hletter

/-- The marks of tags are like no other characters, in any case. -/
theorem caseless_marks : Caseless '<' ∧ Caseless '>' ∧ Caseless '/' := by
  decide +kernel

/-- No bracket stands in a closing tag. -/
theorem Inside.bracket_notMem (h : SpanTag.closing.Inside inside) : '<' ∉ inside ∧ '>' ∉ inside := by
  obtain ⟨hopen, hclose, -⟩ := caseless_marks
  cases h with
  | closing hname hblank =>
    exact ⟨List.not_mem_cons_of_ne_of_not_mem (by decide)
        (List.not_mem_append (notMem_name hname hopen (by decide)) (hblank.notMem (by decide))),
      List.not_mem_cons_of_ne_of_not_mem (by decide)
        (List.not_mem_append (notMem_name hname hclose (by decide)) (hblank.notMem (by decide)))⟩

/-- A tag ends at its first closing angle bracket. -/
theorem Inside.unended (h : kind.Inside inside) : '>' ∉ inside := by
  cases kind with
  | closing => exact h.bracket_notMem.2
  | opening =>
    cases h with
    | opening hname hword hunended =>
      exact List.not_mem_append (notMem_name hname caseless_marks.2.1 (by decide)) hunended

/-- The tags with a slash in front are the closing ones. -/
theorem Inside.head?_eq_slash_iff (h : kind.Inside inside) :
    inside.head? = some '/' ↔ kind = SpanTag.closing := by
  cases h with
  | closing hname hblank => exact ⟨fun _ => rfl, fun _ => rfl⟩
  | @opening name attributes hname hword hunended =>
    have hslash : '/' ∉ name := notMem_name hname caseless_marks.2.2 (by decide)
    obtain ⟨c, name, -, -, rfl⟩ := List.forall₂_cons_left_iff.mp hname
    refine ⟨fun hhead => ?_, fun heq => absurd heq (by decide)⟩
    obtain rfl := Option.some.inj hhead
    exact absurd List.mem_cons_self hslash

/-- A tag is either an opening or a closing one. -/
theorem Inside.kind_eq (h : kind.Inside inside) (h' : kind'.Inside inside) : kind = kind' := by
  have hiff := h.head?_eq_slash_iff.symm.trans h'.head?_eq_slash_iff
  cases kind with
  | opening =>
    cases kind' with
    | opening => rfl
    | closing => cases hiff.mpr rfl
  | closing => exact (hiff.mp rfl).symm

end SpanTag

/-- What is read as an opening tag is one. -/
theorem run_openSpan_eq_some {tail rest : Text} {u : Unit} :
    (openTag "span").run tail = some (u, rest) ↔
      ∃ inside, SpanTag.opening.Inside inside ∧ tail = inside ++ '>' :: rest := by
  rw [run_openTag_eq_some]
  constructor
  · rintro ⟨name, attributes, hname, hword, hunended, rfl⟩
    exact ⟨name ++ attributes, .opening hname hword hunended, (List.append_assoc ..).symm⟩
  · rintro ⟨inside, hinside, rfl⟩
    cases hinside with
    | @opening name attributes hname hword hunended =>
      exact ⟨name, attributes, hname, hword, hunended, List.append_assoc ..⟩

/-- What is read as a closing tag is one. -/
theorem run_closeSpan_eq_some {text rest : Text} {u : Unit} :
    (closeTag "span").run text = some (u, rest) ↔
      ∃ inside, SpanTag.closing.Inside inside ∧ text = '<' :: (inside ++ '>' :: rest) := by
  rw [run_closeTag_eq_some]
  constructor
  · rintro ⟨name, blank, hname, hblank, rfl⟩
    exact ⟨'/' :: (name ++ blank), .closing hname hblank, by simp⟩
  · rintro ⟨inside, hinside, rfl⟩
    cases hinside with
    | @closing name blank hname hblank => exact ⟨name, blank, hname, hblank, by simp⟩

/-- Reads a closing tag of a span after its `<`. -/
def closeSpan : Scanner Char Unit := do
  exactly "/"
  caseless "span"
  blanks
  one '>'

/-- Behind the angle bracket the rest of the closing tag is read. -/
theorem run_closeTag_cons (tail : Text) : (closeTag "span").run ('<' :: tail) = closeSpan.run tail :=
  rfl

/-- A tag of a span. -/
def spanTag : Pattern SpanTag where
  opening := '<'
  body := (do openTag "span"; return .opening) <|> (do closeSpan; return .closing)

/-- What is read as a tag of a kind is one, and the other way round. -/
theorem run_spanTag {kind : SpanTag} {tail rest : Text} :
    spanTag.body.run tail = some (kind, rest) ↔
      ∃ inside, kind.Inside inside ∧ tail = inside ++ '>' :: rest := by
  have hclose : ∀ {u : Unit}, closeSpan.run tail = some (u, rest) ↔
      ∃ inside, SpanTag.closing.Inside inside ∧ tail = inside ++ '>' :: rest := by
    intro u
    rw [← run_closeTag_cons, run_closeSpan_eq_some]
    simp only [List.cons.injEq, true_and]
  constructor
  · intro h
    rcases exists_of_orElse h with h | h
    · obtain ⟨_, _, hrun, hpure⟩ := exists_of_bind h
      cases hpure
      exact run_openSpan_eq_some.mp hrun
    · obtain ⟨_, _, hrun, hpure⟩ := exists_of_bind h
      cases hpure
      exact hclose.mp hrun
  · rintro ⟨inside, hinside, heq⟩
    change ((openTag "span" >>= fun _ => pure SpanTag.opening)
      <|> (closeSpan >>= fun _ => pure SpanTag.closing)).run tail = _
    rw [run_orElse, run_bind, run_bind]
    cases kind with
    | opening =>
      have hopen : (openTag "span").run tail = some ((), rest) :=
        run_openSpan_eq_some.mpr ⟨inside, hinside, heq⟩
      rw [hopen]
      rfl
    | closing =>
      -- the first of the two scanners has to refuse, and a tag is not of both kinds
      have hopen : (openTag "span").run tail = none := by
        refine Option.eq_none_iff_forall_ne_some.mpr fun found hrun => ?_
        obtain ⟨inside', hinside', heq'⟩ := run_openSpan_eq_some.mp hrun
        rw [heq] at heq'
        obtain ⟨rfl, -⟩ := Text.eq_and_eq_of_append_cons hinside.unended hinside'.unended heq'
        cases hinside.kind_eq hinside'
      have hrun : closeSpan.run tail = some ((), rest) := hclose.mpr ⟨inside, hinside, heq⟩
      rw [hopen, hrun]
      rfl

/-- A closing tag begins with an angle bracket. -/
theorem run_closeSpan_cons {c : Char} {tail rest : Text} {u : Unit} :
    (closeTag "span").run (c :: tail) = some (u, rest) ↔
      c = '<' ∧ spanTag.body.run tail = some (.closing, rest) := by
  rw [run_closeSpan_eq_some, run_spanTag]
  simp only [List.cons.injEq]
  constructor
  · rintro ⟨inside, hinside, hc, htail⟩
    exact ⟨hc, inside, hinside, htail⟩
  · rintro ⟨hc, inside, hinside, htail⟩
    exact ⟨inside, hinside, hc, htail⟩

/-- No span is closed where no closing tag begins. -/
theorem run_closeSpan_eq_none {c : Char} {tail : Text}
    (h : c = '<' → ∀ rest, spanTag.body.run tail ≠ some (.closing, rest)) :
    (closeTag "span").run (c :: tail) = none := by
  refine Option.eq_none_iff_forall_ne_some.mpr fun ⟨_, rest⟩ hrun => ?_
  obtain ⟨hc, htail⟩ := run_closeSpan_cons.mp hrun
  exact h hc rest htail

/-- What is refused at a place is refused there whatever comes behind the next closing bracket. -/
theorem run_spanTag_eq_none_of_append {front rest rest' : Text} (hend : '>' ∈ front)
    (h : spanTag.body.run (front ++ rest) = none) : spanTag.body.run (front ++ rest') = none := by
  refine Option.eq_none_iff_forall_ne_some.mpr fun ⟨kind, left⟩ hrun => ?_
  obtain ⟨inside, hinside, heq⟩ := run_spanTag.mp hrun
  obtain ⟨front, behind, rfl, hfront⟩ := List.eq_append_cons_of_mem hend
  rw [List.append_assoc, List.cons_append] at heq h
  obtain ⟨rfl, -⟩ := Text.eq_and_eq_of_append_cons hfront hinside.unended heq
  rw [run_spanTag.mpr ⟨front, hinside, rfl⟩] at h
  cases h

/-- Without a closing angle bracket there is no tag. -/
theorem run_spanTag_eq_none_of_notMem {tail : Text} (h : '>' ∉ tail) : spanTag.body.run tail = none := by
  refine Option.eq_none_iff_forall_ne_some.mpr fun ⟨kind, left⟩ hrun => ?_
  obtain ⟨inside, -, rfl⟩ := run_spanTag.mp hrun
  exact h (List.mem_append_right inside List.mem_cons_self)

/-- A tag, by what stands between its brackets. -/
def bracketed (inside : Text) : Text :=
  '<' :: (inside ++ ['>'])

theorem bracketed_append (inside rest : Text) :
    bracketed inside ++ rest = '<' :: (inside ++ '>' :: rest) := by
  rw [bracketed, List.cons_append, List.append_assoc, List.singleton_append]

/-- Whether a tag of a span stands somewhere in a text. -/
def HoldsSpanTag (text : Text) : Prop :=
  ∃ kind inside, SpanTag.Inside kind inside ∧ bracketed inside <:+: text

/-- The pattern occurs exactly in the texts that hold a tag. -/
theorem occurs_spanTag {text : Text} : spanTag.occurs text = true ↔ HoldsSpanTag text := by
  rw [Pattern.occurs_iff]
  constructor
  · rintro ⟨tail, ⟨front, rfl⟩, hsome⟩
    obtain ⟨⟨kind, rest⟩, hrun⟩ := Option.ne_none_iff_exists'.mp hsome
    obtain ⟨inside, hinside, rfl⟩ := run_spanTag.mp hrun
    refine ⟨kind, inside, hinside, front, rest, ?_⟩
    rw [List.append_assoc, bracketed_append]
    rfl
  · rintro ⟨kind, inside, hinside, front, rest, rfl⟩
    refine ⟨inside ++ '>' :: rest, ⟨front, ?_⟩, ?_⟩
    · rw [List.append_assoc, bracketed_append]
      rfl
    · rw [run_spanTag.mpr ⟨inside, hinside, rfl⟩]
      exact Option.some_ne_none _

/-- A character in front adds a tag only if it is the angle bracket of one. -/
theorem occurs_cons_eq_false {c : Char} {tail : Text} (h : spanTag.occurs tail = false) :
    spanTag.occurs (c :: tail) = false ↔ (c = '<' → spanTag.body.run tail = none) := by
  rw [Pattern.occurs, h, Bool.or_false, Bool.and_eq_false_imp, decide_eq_true_eq,
    Option.isSome_eq_false_iff, Option.isNone_iff_eq_none]
  rfl

/-- A text with a part that holds a tag holds it too. -/
theorem HoldsSpanTag.of_part {part text : Text} (h : HoldsSpanTag part) (hpart : part <:+: text) :
    HoldsSpanTag text := by
  obtain ⟨kind, inside, hinside, hinfix⟩ := h
  exact ⟨kind, inside, hinside, hinfix.trans hpart⟩

instance (text : Text) : Decidable (HoldsSpanTag text) :=
  decidable_of_iff _ occurs_spanTag

/-! ## Tags in squeezed texts -/

/-- What is a tag with its white space squeezed was a tag before. -/
theorem SpanTag.Inside.of_squeeze {kind : SpanTag} {inside : Text}
    (h : kind.Inside (Text.squeeze isWhiteSpace inside)) : kind.Inside inside := by
  generalize hsqueeze : Text.squeeze isWhiteSpace inside = squeezed at h
  cases h with
  | opening hname hword hunended =>
    obtain ⟨attributes, rfl, rfl⟩ :=
      Text.exists_of_squeeze_eq_append (by decide) (SpanTag.inked_name hname) hsqueeze
    refine .opening hname ?_ fun hmem => hunended ?_
    · cases attributes with
      | nil => rfl
      | cons c attributes =>
        by_cases hc : isWhiteSpace c = true
        · exact Unicode.isWordChar_of_isWhiteSpace hc
        · rw [Text.squeeze_cons_of_neg (eq_false_of_ne_true hc)] at hword
          exact hword
    · exact (Text.mem_squeeze_iff (by decide)).mpr hmem
  | @closing name _ hname hblank =>
    have hinked : Text.Inked ('/' :: name) :=
      List.forall_mem_cons.mpr ⟨by decide, SpanTag.inked_name hname⟩
    obtain ⟨blank, rfl, rfl⟩ := Text.exists_of_squeeze_eq_append (by decide) hinked hsqueeze
    rw [← Text.ink_eq_nil_iff, Text.ink_squeeze, Text.ink_eq_nil_iff] at hblank
    exact .closing hname hblank

/-- Squeezing white space makes no tag. -/
theorem run_spanTag_ne_none_of_squeeze {tail : Text}
    (h : spanTag.body.run (Text.squeeze isWhiteSpace tail) ≠ none) : spanTag.body.run tail ≠ none := by
  obtain ⟨⟨kind, rest⟩, hrun⟩ := Option.ne_none_iff_exists'.mp h
  obtain ⟨inside, hinside, hsqueeze⟩ := run_spanTag.mp hrun
  obtain ⟨before, behind, rfl, rfl, -⟩ := Text.exists_of_pass_eq
    (Text.squeeze_append_cons (by decide)) (fun _ => (Text.mem_squeeze_iff (by decide)).mp) hsqueeze
  rw [run_spanTag.mpr ⟨before, hinside.of_squeeze, rfl⟩]
  exact Option.some_ne_none _

/-- Squeezing white space makes no tag. -/
theorem occurs_spanTag_of_squeeze {text : Text}
    (h : spanTag.occurs (Text.squeeze isWhiteSpace text) = true) : spanTag.occurs text = true := by
  induction text with
  | nil => exact h
  | cons c text ih =>
    by_cases hc : isWhiteSpace c = true
    · have hlater : spanTag.occurs (Text.squeeze isWhiteSpace text) = true := by
        rw [Text.squeeze, if_pos hc] at h
        split at h
        · exact h
        · exact h
      rw [Pattern.occurs, ih hlater, Bool.or_true]
    · rw [Text.squeeze_cons_of_neg (eq_false_of_ne_true hc), Pattern.occurs, Bool.or_eq_true,
        Bool.and_eq_true, Option.isSome_iff_ne_none] at h
      rw [Pattern.occurs, Bool.or_eq_true, Bool.and_eq_true, Option.isSome_iff_ne_none]
      exact h.imp (And.imp_right run_spanTag_ne_none_of_squeeze) ih

end WikiText.Html
