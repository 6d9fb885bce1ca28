import WikiText.Html.Reference
import WikiText.Proofs.Text.Pattern
import WikiText.Proofs.Text.Trim
import WikiText.Proofs.Unicode.CaseFold

/-!
# References with their notes

A note between a pair of tags is read up to its closing tag, for none is mentioned in the note. Its opening
tag is read up to its end (`PairedReference.run_body`), unless a slash comes first
(`PairedReference.run_body_of_slash`). Around the reference no other one begins. So it goes with its note and
nothing else does, provided that there is no slash among its attributes (`removeReferences_paired`).

Before that the tags that repeat a named note go (`NamedReference`). They are looked for everywhere, also
across the end of a tag with a quotation mark that is left open.
-/

namespace WikiText.Html

open Scanner
open Unicode (Caseless sameLetter)

/-! ## References as they are written -/

/-- Whether a mark stands in a text in capital or small letters. -/
def Mentions (mark : String) (text : Text) : Prop :=
  ∃ written, List.Forall₂ (sameLetter · · = true) mark.toList written ∧ written <:+: text

/-- A text mentions a mark exactly if one of its tails begins with it, in any case. -/
theorem mentions_iff {mark : String} {text : Text} :
    Mentions mark text ↔ ∃ tail ∈ text.tails, ((caseless mark).run tail).isSome = true := by
  constructor
  · rintro ⟨written, hwritten, front, back, rfl⟩
    refine ⟨written ++ back, (List.mem_tails _ _).mpr ⟨front, (List.append_assoc ..).symm⟩, ?_⟩
    exact Option.isSome_iff_exists.mpr ⟨((), back), run_matching_eq_some.mpr ⟨written, hwritten, rfl⟩⟩
  · rintro ⟨tail, htail, hsome⟩
    obtain ⟨⟨_, back⟩, hrun⟩ := Option.isSome_iff_exists.mp hsome
    obtain ⟨written, hwritten, rfl⟩ := run_matching_eq_some.mp hrun
    have hsuffix : written ++ back <:+ text := (List.mem_tails _ _).mp htail
    exact ⟨written, hwritten, List.IsInfix.trans ⟨[], back, rfl⟩ hsuffix.isInfix⟩

instance (mark : String) (text : Text) : Decidable (Mentions mark text) :=
  decidable_of_iff _ mentions_iff.symm

/-- A tag that repeats a named note. -/
structure NamedReference where
  /-- The white space behind the name of the tag. -/
  blank : Text
  /-- The name of the note. -/
  name : Text
  /-- The white space before the end of the tag. -/
  margin : Text
  blank_ne_nil : blank ≠ []
  blank_blank : Text.Blank blank
  name_ne_nil : name ≠ []
  quote_notMem : '"' ∉ name
  blank_margin : Text.Blank margin

namespace NamedReference

/-- What follows the bracket of the tag, before another text. -/
def behind (named : NamedReference) (after : Text) : Text :=
  "ref".toList ++ (named.blank ++ ("name=\"".toList ++ (named.name
    ++ '"' :: (named.margin ++ ("/>".toList ++ after)))))

/-- The text of the tag. -/
def source (named : NamedReference) : Text :=
  '<' :: named.behind []

end NamedReference

/-- A note between a pair of tags. -/
structure PairedReference where
  /-- The name of the opening tag. -/
  opening : Text
  /-- What stands between the name of the opening tag and its end. -/
  attributes : Text
  /-- The text of the note. -/
  note : Text
  /-- The name of the closing tag. -/
  closing : Text
  opening_eq : List.Forall₂ (sameLetter · · = true) "ref".toList opening
  closing_eq : List.Forall₂ (sameLetter · · = true) "ref".toList closing
  unended : '>' ∉ attributes
  unclosed : ¬ Mentions "</ref" note

namespace PairedReference

/-- The closing tag of a reference before another text. -/
def close (reference : PairedReference) (after : Text) : Text :=
  '<' :: '/' :: (reference.closing ++ '>' :: after)

/-- What follows the name of the opening tag, before another text. -/
def behind (reference : PairedReference) (after : Text) : Text :=
  ' ' :: (reference.attributes ++ '>' :: (reference.note ++ reference.close after))

/-- A reference as it is written, before another text. -/
def source (reference : PairedReference) (after : Text) : Text :=
  '<' :: (reference.opening ++ reference.behind after)

end PairedReference

/-! ## Repeated notes -/

/-- What is read as a named reference is one. -/
theorem exists_of_run_namedReference {tail left : Text} {u : Unit}
    (h : namedReference.body.run tail = some (u, left)) :
    ∃ named : NamedReference, tail = named.behind left := by
  obtain ⟨_, _, htag, h⟩ := exists_of_bind h
  obtain ⟨_, _, hblank, h⟩ := exists_of_bind h
  obtain ⟨_, _, hattribute, h⟩ := exists_of_bind h
  obtain ⟨_, _, hname, h⟩ := exists_of_bind h
  obtain ⟨_, _, hquote, h⟩ := exists_of_bind h
  obtain ⟨_, _, hmargin, hend⟩ := exists_of_bind h
  obtain rfl := run_matching_beq.mp htag
  obtain ⟨blank, hblankne, hblanks, rfl⟩ := exists_of_skipWhile1 hblank
  obtain rfl := run_matching_beq.mp hattribute
  obtain ⟨name, hnamene, hunquoted, rfl⟩ := exists_of_skipWhile1 hname
  obtain rfl := run_one_eq_some.mp hquote
  obtain ⟨margin, hmargins, rfl⟩ := exists_of_skipWhile hmargin
  obtain rfl := run_matching_beq.mp hend
  have hnot : '"' ∉ name := fun hmem => absurd (hunquoted _ hmem) (by decide)
  exact ⟨⟨blank, name, margin, hblankne, hblanks, hnamene, hnot, hmargins⟩, rfl⟩

/-- A named reference is read as it is described. -/
theorem NamedReference.run_body (named : NamedReference) (left : Text) :
    namedReference.body.run (named.behind left) = some ((), left) := by
  have hblank : blanks1.run (named.blank ++ ("name=\"".toList ++ (named.name
      ++ '"' :: (named.margin ++ ("/>".toList ++ left)))))
      = some ((), "name=\"".toList ++ (named.name ++ '"' :: (named.margin ++ ("/>".toList ++ left)))) :=
    run_skipWhile1_append named.blank_blank named.blank_ne_nil (by rintro c ⟨⟩; rfl)
  have hname : (skipWhile1 (· ≠ '"')).run (named.name ++ '"' :: (named.margin ++ ("/>".toList ++ left)))
      = some ((), '"' :: (named.margin ++ ("/>".toList ++ left))) := by
    refine run_skipWhile1_append (fun c hc => decide_eq_true ?_) named.name_ne_nil (by simp)
    rintro rfl
    exact named.quote_notMem hc
  have hmargin : blanks.run (named.margin ++ ("/>".toList ++ left)) = some ((), "/>".toList ++ left) :=
    run_skipWhile_append named.blank_margin (by rintro c ⟨⟩; rfl)
  exact (run_bind_of_eq_some (run_matching_self _ _)).trans <|
    (run_bind_of_eq_some hblank).trans <|
    (run_bind_of_eq_some (run_matching_self _ _)).trans <|
    (run_bind_of_eq_some hname).trans <|
    (run_bind_of_eq_some (run_one_self '"' _)).trans <|
    (run_bind_of_eq_some hmargin).trans (run_matching_self _ _)

/-- A repeated note stands in a text exactly when the scanner finds one. -/
theorem occurs_namedReference {text : Text} :
    namedReference.occurs text = true ↔ ∃ named : NamedReference, named.source <:+: text := by
  rw [Pattern.occurs_iff]
  constructor
  · rintro ⟨tail, hsuffix, hsome⟩
    obtain ⟨⟨_, left⟩, hrun⟩ := Option.ne_none_iff_exists'.mp hsome
    obtain ⟨named, rfl⟩ := exists_of_run_namedReference hrun
    refine ⟨named, List.IsInfix.trans ⟨[], left, ?_⟩ hsuffix.isInfix⟩
    simp [NamedReference.source, NamedReference.behind, namedReference]
  · rintro ⟨named, before, after, rfl⟩
    refine ⟨named.behind after, ⟨before, ?_⟩, ?_⟩
    · simp [NamedReference.source, NamedReference.behind, namedReference]
    · rw [named.run_body]
      exact Option.some_ne_none _

/-! ## Where a note with its tags begins -/

/-- No letter of the name is an angle bracket, in any case. -/
theorem caseless_angle : ∀ letter ∈ "ref".toList, sameLetter letter '<' = false := by
  have hangle : Caseless '<' := by decide +kernel
  intro letter hletter
  apply hangle.sameLetter_eq_false
  rintro rfl
  exact absurd hletter (by decide)

/-- A tail that begins with an angle bracket and the name is a mention. -/
theorem mentions_of_suffix {read left text : Text}
    (hread : List.Forall₂ (sameLetter · · = true) "ref".toList read)
    (hsuffix : '<' :: (read ++ left) <:+ text) : Mentions "<ref" text :=
  ⟨'<' :: read, .cons rfl hread, List.IsInfix.trans ⟨[], left, rfl⟩ hsuffix.isInfix⟩

/-- In a text without a mention of an opening tag none begins, whatever bracket comes after it. -/
theorem run_pairedReference_append {text tail : Text} (h : ¬ Mentions "<ref" text)
    (hsuffix : '<' :: tail <:+ text) (rest : Text) :
    pairedReference.body.run (tail ++ '<' :: rest) = none := by
  by_contra hsome
  obtain ⟨⟨note, left⟩, hrun⟩ := Option.ne_none_iff_exists'.mp hsome
  obtain ⟨_, _, hname, -⟩ := exists_of_bind hrun
  obtain ⟨read, more, hread, rfl, -⟩ := exists_of_matching caseless_angle hname
  exact h (mentions_of_suffix hread hsuffix)

/-- In a text without a mention of an opening tag there is no note with its tags. -/
theorem not_occurs_pairedReference {text : Text} (h : ¬ Mentions "<ref" text) :
    pairedReference.occurs text = false := by
  rw [Pattern.occurs_eq_false_iff]
  intro tail hsuffix
  by_contra hsome
  obtain ⟨⟨note, left⟩, hrun⟩ := Option.ne_none_iff_exists'.mp hsome
  obtain ⟨_, _, hname, -⟩ := exists_of_bind hrun
  obtain ⟨read, hread, rfl⟩ := run_matching_eq_some.mp hname
  exact h (mentions_of_suffix hread hsuffix)

namespace PairedReference

variable (reference : PairedReference) (after : Text)

/-- A closing tag is not read in the note. -/
theorem run_closeTag_note {s : Char} {later : Text} (hsuffix : s :: later <:+ reference.note) :
    (closeTag "ref").run (s :: (later ++ reference.close after)) = none := by
  by_contra hsome
  obtain ⟨⟨_, left⟩, hrun⟩ := Option.ne_none_iff_exists'.mp hsome
  obtain ⟨_, middle, hslash, hrun⟩ := exists_of_bind hrun
  obtain ⟨_, _, hname, -⟩ := exists_of_bind hrun
  have hbegins : s :: (later ++ reference.close after) = '<' :: '/' :: middle :=
    run_matching_beq.mp hslash
  obtain ⟨rfl, hbehind⟩ := List.cons.inj hbegins
  cases later with
  | nil => exact absurd (List.cons.inj hbehind).1 (by decide)
  | cons t later =>
    obtain ⟨rfl, rfl⟩ := List.cons.inj hbehind
    obtain ⟨read, more, hread, rfl, -⟩ := exists_of_matching caseless_angle hname
    exact reference.unclosed ⟨'<' :: '/' :: read, .cons rfl (.cons rfl hread),
      List.IsInfix.trans ⟨[], more, rfl⟩ hsuffix.isInfix⟩

/-- The closing tag of a reference is read as one. -/
theorem run_closeTag_close :
    (closeTag "ref").run (reference.close after) = some ((), after) := by
  have hname : (caseless "ref").run (reference.closing ++ '>' :: after) = some ((), '>' :: after) :=
    run_matching_eq_some.mpr ⟨reference.closing, reference.closing_eq, rfl⟩
  have hblank : blanks.run ('>' :: after) = some ((), '>' :: after) :=
    run_skipWhile_append Text.blank_nil (by rintro c ⟨⟩; rfl)
  exact (run_bind_of_eq_some (run_matching_self _ _)).trans <|
    (run_bind_of_eq_some hname).trans <|
    (run_bind_of_eq_some hblank).trans (run_one_self '>' after)

/-- Behind the name of the opening tag, its attributes and its end are read, and then the note. -/
theorem run_name :
    pairedReference.body.run (reference.opening ++ reference.behind after)
      = ((skipWhile fun c => c ≠ '>' && c ≠ '/') >>= fun _ => one '>' >>= fun _ =>
          upTo (closeTag "ref")).run (reference.behind after) := by
  have hname : (caseless "ref").run (reference.opening ++ reference.behind after)
      = some ((), reference.behind after) :=
    run_matching_eq_some.mpr ⟨reference.opening, reference.opening_eq, rfl⟩
  have hend : wordEnd.run (reference.behind after) = some ((), reference.behind after) := rfl
  exact (run_bind_of_eq_some hname).trans (run_bind_of_eq_some hend)

/-- Attributes are skipped up to a slash or the end of the tag. -/
theorem run_attributes {front rest : Text} {stop : Char} (hended : '>' ∉ front) (hslash : '/' ∉ front)
    (hstop : (stop ≠ '>' && stop ≠ '/') = false) :
    (skipWhile fun c => c ≠ '>' && c ≠ '/').run (' ' :: front ++ stop :: rest) = some ((), stop :: rest) := by
  refine run_skipWhile_append (fun c hc => ?_) (by rintro c ⟨⟩; exact hstop)
  rcases List.mem_cons.mp hc with rfl | hc
  · rfl
  · simp only [Bool.and_eq_true, decide_eq_true_eq]
    exact ⟨fun heq => hended (heq ▸ hc), fun heq => hslash (heq ▸ hc)⟩

/-- The scanner stops at the first slash among the attributes, which does not end the tag. -/
theorem run_body_of_slash (h : '/' ∈ reference.attributes) :
    pairedReference.body.run (reference.opening ++ reference.behind after) = none := by
  obtain ⟨front, back, hattributes, hfirst⟩ := List.eq_append_cons_of_mem h
  have hended : '>' ∉ front := fun hmem =>
    reference.unended (hattributes ▸ List.mem_append_left _ hmem)
  have hbehind : reference.behind after
      = ' ' :: front ++ '/' :: (back ++ '>' :: (reference.note ++ reference.close after)) := by
    simp [behind, hattributes]
  rw [reference.run_name, hbehind, run_bind_of_eq_some (run_attributes hended hfirst rfl), run_bind,
    run_one_of_ne (by decide)]
  rfl

/-- Without a slash among the attributes the note is read up to its closing tag. -/
theorem run_body (h : '/' ∉ reference.attributes) :
    pairedReference.body.run (reference.opening ++ reference.behind after)
      = some (reference.note, after) := by
  rw [reference.run_name, behind, ← List.cons_append,
    run_bind_of_eq_some (run_attributes reference.unended h rfl), run_bind_of_eq_some (run_one_self '>' _)]
  exact upToRun_append (fun _ _ => reference.run_closeTag_note after) (reference.run_closeTag_close after)

end PairedReference

/-- **A reference goes with its note and nothing else does**, exactly if there is no slash among the
attributes of its opening tag. This is so in every text in which no named note is repeated. -/
theorem removeReferences_paired (reference : PairedReference) {before after : Text}
    (hbefore : ¬ Mentions "<ref" before) (hafter : ¬ Mentions "<ref" after)
    (hnamed : ∀ named : NamedReference, ¬ named.source <:+: before ++ reference.source after) :
    removeReferences (before ++ reference.source after) = before ++ after
      ↔ '/' ∉ reference.attributes := by
  have hunnamed : namedReference.occurs (before ++ reference.source after) = false := by
    rw [← Bool.not_eq_true, occurs_namedReference]
    rintro ⟨named, hstands⟩
    exact hnamed named hstands
  -- no reference begins before this one, since a mention of its name would
  have hkept : pairedReference.remove (before ++ reference.source after)
      = before ++ pairedReference.remove (reference.source after) :=
    Pattern.replaceWith_append_of_refused
      (fun _ hsuffix => run_pairedReference_append hbefore hsuffix _) _
  rw [removeReferences, Pattern.remove_of_not_occurs hunnamed, hkept, List.append_right_inj]
  by_cases hslash : '/' ∈ reference.attributes
  · -- the opening tag stays, and the text behind the reference would mention it
    refine iff_of_false (fun heq => hafter ?_) (not_not_intro hslash)
    have hopening : '<' ∉ reference.opening := notMem_of_agree reference.opening_eq caseless_angle
    have hstays : pairedReference.remove (reference.source after)
        = '<' :: pairedReference.remove (reference.opening ++ reference.behind after) :=
      Pattern.replaceWith_cons_of_none (reference.run_body_of_slash after hslash) _
    have hname : pairedReference.remove (reference.opening ++ reference.behind after)
        = reference.opening ++ pairedReference.remove (reference.behind after) :=
      Pattern.replaceWith_append_of_refused
        (fun _ hsuffix => absurd (hsuffix.subset List.mem_cons_self) hopening) _
    rw [← heq, hstays, hname]
    exact mentions_of_suffix reference.opening_eq (List.suffix_refl _)
  · refine iff_of_true ?_ hslash
    have hremoved : pairedReference.remove (reference.source after) = pairedReference.remove after :=
      Pattern.replaceWith_cons_of_some (reference.run_body after hslash) _
    rw [hremoved, Pattern.remove_of_not_occurs (not_occurs_pairedReference hafter)]

/-- A reference with an attribute is removed. -/
theorem removeReferences_paired_group :
    removeReferences "a<ref group=\"n\">x</ref>b".toList = "ab".toList := by
  let reference : PairedReference :=
    { opening := "ref".toList
      attributes := "group=\"n\"".toList
      note := "x".toList
      closing := "ref".toList
      opening_eq := by decide
      closing_eq := by decide
      unended := by decide
      unclosed := by decide }
  have hnamed : ∀ named : NamedReference, ¬ named.source <:+: "a".toList ++ reference.source ['b'] := by
    have hunnamed : namedReference.occurs ("a".toList ++ reference.source ['b']) = false := by
      decide
    intro named hstands
    rw [occurs_namedReference.mpr ⟨named, hstands⟩] at hunnamed
    cases hunnamed
  exact (removeReferences_paired reference (by decide) (by decide) hnamed).mpr (by decide)

/-- A slash in the name of a note keeps its tags and its text. -/
theorem removeReferences_slash :
    ¬ ∀ (reference : PairedReference) (before after : Text),
      reference.attributes.getLast? ≠ some '/' → ¬ Mentions "<ref" reference.note →
      ¬ Mentions "<ref" before → ¬ Mentions "<ref" after →
      removeReferences (before ++ reference.source after) = before ++ after := by
  intro h
  have hremoved : removeReferences "a<ref name=\"x/y\">cite</ref>b".toList = "ab".toList :=
    h { opening := "ref".toList
        attributes := "name=\"x/y\"".toList
        note := "cite".toList
        closing := "ref".toList
        opening_eq := by decide
        closing_eq := by decide
        unended := by decide
        unclosed := by decide }
      "a".toList "b".toList (by decide) (by decide) (by decide) (by decide)
  exact absurd hremoved (by decide +kernel)

/-- A quotation mark that the tag leaves open makes a repeated note of it, and its closing tag stays. -/
example : removeReferences "<ref name=\"x>y\"/>z</ref>".toList = "z</ref>".toList := by
  decide +kernel

end WikiText.Html
