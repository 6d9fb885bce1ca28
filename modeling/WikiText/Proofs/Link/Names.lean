import WikiText.Proofs.Link.File

/-!
# Names in front of a colon

A wiki keeps the names of its namespaces trimmed, and none of them is empty (`proper_of_mem_files`,
`proper_of_mem_categories`). A name that is written in capital or small letters therefore begins with
no white space either, and is read up to its colon (`isCategory_written`). A content is a category
only if it has a colon behind the name, so neither a target without a colon nor one with a colon in
front of it is one.
-/

namespace WikiText

open Unicode (isWhiteSpace sameLetter)
open Link (caseless_of_mem_marks exists_of_qualifier run_qualifier suffix_of_qualifier)

namespace Namespaces

/-! ## The names that are kept -/

/-- A name as a wiki keeps it. -/
structure Proper (name : Text) : Prop where
  trimmed : Text.Trimmed name
  nonempty : name ≠ []

/-- Adding a name to proper names leaves proper names. -/
theorem proper_of_mem_addName {names : List Text} (h : ∀ name ∈ names, Proper name) (added : Text) :
    ∀ name ∈ addName names added, Proper name := by
  intro name hname
  rw [addName] at hname
  split at hname
  · exact h name hname
  · next hnew =>
    rcases List.mem_append.mp hname with hname | hname
    · exact h name hname
    · obtain rfl := List.mem_singleton.mp hname
      refine ⟨Text.trimmed_trim added, fun hempty => hnew ?_⟩
      rw [hempty]
      rfl

/-- Adding names to proper names leaves proper names. -/
theorem proper_of_mem_foldl (added : List Text) {names : List Text}
    (h : ∀ name ∈ names, Proper name) : ∀ name ∈ added.foldl addName names, Proper name := by
  induction added generalizing names with
  | nil => exact h
  | cons first added ih => exact ih (proper_of_mem_addName h first)

/-- All names of a wiki are kept so. -/
theorem proper_of_mem_ofNames {files categories : List Text} {name : Text}
    (h : name ∈ (ofNames files categories).files ++ (ofNames files categories).categories) :
    Proper name := by
  have hcanonical : ∀ name ∈ canonical.files ++ canonical.categories, Proper name := by
    have htrim : ∀ name ∈ canonical.files ++ canonical.categories, name.trim = name ∧ name ≠ [] := by
      decide
    intro name hname
    obtain ⟨heq, hne⟩ := htrim name hname
    exact ⟨heq ▸ Text.trimmed_trim name, hne⟩
  rcases List.mem_append.mp h with hname | hname
  · exact proper_of_mem_foldl files (fun other hother => hcanonical other (by simp [hother])) name hname
  · exact proper_of_mem_foldl categories (fun other hother => hcanonical other (by simp [hother])) name
      hname

/-! ## Categories -/

variable {namespaces : Namespaces} {name written page content target anchor : Text}

/-- A name in capital or small letters begins with no white space, for white space has no case. -/
theorem Proper.trimStart_written (h : Proper name)
    (hsame : List.Forall₂ (sameLetter · · = true) name written) (rest : Text) :
    Text.trimStart (written ++ rest) = written ++ rest := by
  cases hsame with
  | nil => exact absurd rfl h.nonempty
  | @cons d c name written hfirst hmore =>
    apply List.dropWhile_cons_of_neg
    intro hblank
    have hd := h.trimmed.head d rfl
    rw [(Unicode.caseless_of_isWhiteSpace hblank).sameLetter_iff.mp hfirst, hblank] at hd
    cases hd

/-- A category in front of a page, in capital or small letters. -/
theorem isCategory_written (hname : name ∈ namespaces.categories) (hproper : Proper name)
    (hsame : List.Forall₂ (sameLetter · · = true) name written) (hpage : page ≠ [])
    (hclose : ']' ∉ page) : namespaces.isCategory (written ++ ':' :: page) = true := by
  rw [isCategory, List.any_eq_true]
  refine ⟨name, hname, ?_⟩
  rw [run_qualifier (hproper.trimStart_written hsame _) hsame]
  simp [hpage, hclose]

/-- A link to a category begins with a name of categories. -/
theorem exists_of_isCategory (h : namespaces.isCategory content = true) :
    ∃ name ∈ namespaces.categories, ∃ rest, (qualifier name).run content = some ((), rest) := by
  rw [isCategory, List.any_eq_true] at h
  obtain ⟨name, hname, hany⟩ := h
  obtain ⟨⟨u, rest⟩, hrun, -⟩ := (Option.any_eq_true _ _).mp hany
  exact ⟨name, hname, rest, hrun⟩

/-- A category has a colon. -/
theorem isCategory_of_notMem (h : ':' ∉ content) : namespaces.isCategory content = false := by
  by_contra hcategory
  rw [Bool.not_eq_false] at hcategory
  obtain ⟨name, -, rest, hrun⟩ := exists_of_isCategory hcategory
  exact h ((suffix_of_qualifier hrun).subset List.mem_cons_self)

/-- Behind a colon a category has another one, and its name begins with the first. -/
theorem colon_mem_of_isCategory_colon (hproper : ∀ name ∈ namespaces.categories, Proper name)
    (h : namespaces.isCategory (':' :: content) = true) :
    ':' ∈ content ∧ ∃ name ∈ namespaces.categories, ':' ∈ name := by
  obtain ⟨name, hname, rest, hrun⟩ := exists_of_isCategory h
  obtain ⟨middle, hmatch, hcolon⟩ := exists_of_qualifier hrun
  have hstart : Text.trimStart (':' :: content) = ':' :: content :=
    List.dropWhile_cons_of_neg (by decide)
  rw [hstart] at hmatch
  obtain ⟨front, hsame, heq⟩ := Scanner.run_matching_eq_some.mp hmatch
  -- the colon in front has to agree with the first letter of the name, and a colon has no other case
  cases hsame with
  | nil => exact absurd rfl (hproper _ hname).nonempty
  | @cons d c name front hfirst hmore =>
    obtain ⟨rfl, rfl⟩ := List.cons.inj heq
    refine ⟨List.mem_append_right front ?_, d :: name, hname, ?_⟩
    · apply (List.dropWhile_suffix isWhiteSpace).subset
      rw [← Text.trimStart, hcolon]
      exact List.mem_cons_self
    · rw [(caseless_of_mem_marks (by decide)).sameLetter_iff.mp hfirst]
      exact List.mem_cons_self

/-- A section is not read as the name of a category, unless such a name has a number sign itself. -/
theorem isCategory_anchor (htrimmed : Text.Trimmed target) (hne : target ≠ []) (hcolon : ':' ∉ target)
    (hnames : ∀ name ∈ namespaces.categories, '#' ∉ name) :
    namespaces.isCategory (target ++ '#' :: anchor) = false := by
  by_contra hcategory
  rw [Bool.not_eq_false] at hcategory
  obtain ⟨name, hname, rest, hrun⟩ := exists_of_isCategory hcategory
  obtain ⟨middle, hmatch, htrim⟩ := exists_of_qualifier hrun
  rw [htrimmed.trimStart_append hne] at hmatch
  have hother : ∀ d ∈ name, sameLetter d '#' = false := by
    intro d hd
    apply (caseless_of_mem_marks (by decide)).sameLetter_eq_false
    rintro rfl
    exact hnames name hname hd
  obtain ⟨front, left, -, rfl, rfl⟩ := Scanner.exists_of_matching hother hmatch
  rcases Text.mem_or_eq_of_trimStart (by decide) htrim with hleft | hsign
  · exact hcolon (List.mem_append_right front hleft)
  · exact absurd hsign (by decide)

end Namespaces

end WikiText
