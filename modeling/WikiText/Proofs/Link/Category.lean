import WikiText.Proofs.Clean.Colon
import WikiText.Proofs.Link.Target

/-!
# Links to categories

A link to a category goes, and the white space before it with it: its name may be written in capital or
small letters, and a page of any kind may follow. With a colon in front, a link to a category or to a
file is shown as it is written (`resolveAll_category`).
-/

namespace WikiText.Link

open Unicode (isWhiteSpace sameLetter)

variable {ε : Type} {resolve : Text → Traced ε Action} {before content after text next : Text}

/-! ## One link in a text -/

/-- A text without brackets is kept. -/
theorem resolveOnce_of_notMem (resolve : Text → Traced ε Action) (hopen : '[' ∉ text)
    (hclose : ']' ∉ text) : resolveOnce resolve text = pure text := by
  have hread := resolveFrom_append_of_notMem resolve hopen hclose [] []
  rw [List.append_nil, List.append_nil] at hread
  rw [resolveOnce, hread, resolveFrom, List.reverse_reverse]
  rfl

/-- One link has one pair of opening brackets. -/
theorem pairs_between (hopen : '[' ∉ before) (hopen' : '[' ∉ content) (hopen'' : '[' ∉ after) :
    pairs (before ++ '[' :: '[' :: (content ++ ']' :: ']' :: after)) = 1 := by
  obtain ⟨hnone, hend, -⟩ := plain_of_notMem hopen
  have hinside : '[' ∉ content ++ ']' :: ']' :: after := by simp [hopen', hopen'']
  rw [pairs_append hend, hnone, Nat.zero_add]
  exact congrArg (· + 1) (plain_of_notMem hinside).1

/-- The links of a text are resolved if a pass finds nothing to do after the first one. -/
theorem resolveAll_eq_of_once (changed : ℕ → ε) (hpairs : 0 < pairs text)
    (hfirst : resolveOnce resolve text = pure next) (hsecond : resolveOnce resolve next = pure next) :
    resolveAll resolve changed text = pure next := by
  obtain ⟨left, hleft⟩ : ∃ left, text.countPairs '[' '[' = left + 1 :=
    Nat.exists_eq_add_one.mpr hpairs
  have hagain : resolvePasses resolve changed 1 (left + 1) next = pure next := by
    rw [resolvePasses, hsecond, pure_bind, if_pos rfl]
  rw [resolveAll, hleft, resolvePasses, hfirst, pure_bind]
  split
  · next heq => rw [heq]
  · rw [if_neg (Nat.lt_irrefl 0)]
    exact hagain

/-! ## Categories and colons -/

variable {namespaces : Namespaces} {name written page : Text}

/-- A link to a category goes, with the white space before it. -/
theorem resolveAll_drop (hname : name ∈ namespaces.categories) (hproper : Namespaces.Proper name)
    (hmarks : '[' ∉ name ∧ ']' ∉ name) (hsame : List.Forall₂ (sameLetter · · = true) name written)
    (hpage : page ≠ []) (hbefore : '[' ∉ before ∧ ']' ∉ before) (hinside : '[' ∉ page ∧ ']' ∉ page)
    (hafter : '[' ∉ after ∧ ']' ∉ after) (clean : Text → Traced ε Text) (changed : ℕ → ε) :
    resolveAll (classify namespaces clean) changed
        (before ++ '[' :: '[' :: (written ++ ':' :: page ++ ']' :: ']' :: after))
      = pure (Text.trimEnd before ++ after) := by
  -- a bracket is its own only case, so the name as written has none either
  have hwritten : ∀ c ∈ marks, c ∉ name → c ∉ written := by
    intro c hc hnot
    refine Scanner.notMem_of_agree hsame fun d hd => ?_
    apply (caseless_of_mem_marks hc).sameLetter_eq_false
    rintro rfl
    exact hnot hd
  have hopen : '[' ∉ written ++ ':' :: page := by
    simp [hwritten '[' (by decide) hmarks.1, hinside.1]
  have hclose : ']' ∉ written ++ ':' :: page := by
    simp [hwritten ']' (by decide) hmarks.2, hinside.2]
  have htrim : ∀ c, c ∉ before → c ∉ Text.trimEnd before :=
    fun c hc hmem => hc ((prefix_dropWhileEnd _ _).subset hmem)
  have hdrop : classify namespaces clean (written ++ ':' :: page) = pure .drop := by
    rw [classify, read, Namespaces.isCategory_written hname hproper hsame hpage hinside.2]
    rfl
  -- one pass drops the link, and what is left has no brackets for a second one
  apply resolveAll_eq_of_once
  · rw [pairs_between hbefore.1 hopen hafter.1]
    exact Nat.one_pos
  · rw [resolveOnce_between _ hbefore ⟨hopen, hclose⟩ hafter, hdrop, pure_bind]
    rfl
  · apply resolveOnce_of_notMem
    · simp [htrim '[' hbefore.1, hafter.1]
    · simp [htrim ']' hbefore.2, hafter.2]

/-- A name and a page with a colon between them have no marks. -/
theorem Unmarked.append_colon (h : Unmarked name) (h' : Unmarked page) :
    Unmarked (name ++ ':' :: page) where
  trimmed :=
    { head := by
        intro c hc
        obtain ⟨d, tail, rfl⟩ := List.exists_cons_of_ne_nil h.nonempty
        exact h.trimmed.head c hc
      last := by
        intro c hc
        rw [List.getLast?_append_of_ne_nil _ (List.cons_ne_nil _ _)] at hc
        exact h'.colon.trimmed.last c hc }
  nonempty := List.append_ne_nil_of_left_ne_nil h.nonempty _
  plain := by
    intro c hc
    rcases List.mem_append.mp hc with hc | hc
    · exact h.plain c hc
    · exact h'.colon.plain c hc

/-- Behind a colon nothing is a category, unless the name of one has a colon itself. -/
theorem isCategory_colon (hproper : ∀ name ∈ namespaces.categories, Namespaces.Proper name)
    (hcolon : ∀ name ∈ namespaces.categories, ':' ∉ name) (text : Text) :
    namespaces.isCategory (':' :: text) = false := by
  by_contra hcategory
  rw [Bool.not_eq_false] at hcategory
  obtain ⟨-, name, hname, hmem⟩ := Namespaces.colon_mem_of_isCategory_colon hproper hcategory
  exact hcolon name hname hmem

/-- **Links to categories go, and colons keep links.** If no name of a namespace has a colon or a
bracket, then a link to a category is taken out of a text without other brackets, together with the
white space before it, whether its name is written in capital or small letters, and whatever its page
is. With a colon in front, a link to a page of any namespace is read as its target and replaced by that,
cleaned. It is not replaced by nothing then, as long as no parenthesis in the name begins an address. -/
theorem resolveAll_category {files categories : List Text}
    (hconfigured : namespaces = .ofNames files categories)
    (hnames : ∀ name ∈ namespaces.files ++ namespaces.categories,
      ':' ∉ name ∧ '[' ∉ name ∧ ']' ∉ name)
    (clean : Text → Traced ε Text) (changed : ℕ → ε) :
    (∀ name ∈ namespaces.categories, ∀ written before page after,
      List.Forall₂ (sameLetter · · = true) name written → page ≠ [] →
      '[' ∉ before ∧ ']' ∉ before → '[' ∉ page ∧ ']' ∉ page → '[' ∉ after ∧ ']' ∉ after →
      resolveAll (classify namespaces clean) changed
          (before ++ '[' :: '[' :: (written ++ ':' :: page ++ ']' :: ']' :: after))
        = pure (Text.trimEnd before ++ after)) ∧
    (∀ name ∈ namespaces.files ++ namespaces.categories, ∀ page, Unmarked name → Unmarked page →
      (classify namespaces clean (':' :: (name ++ ':' :: page)) = do
        let text ← clean (name ++ ':' :: page)
        return .replace text) ∧
      read namespaces (':' :: (name ++ ':' :: page)) = .shown (name ++ ':' :: page) ∧
      ('(' ∉ name → ∀ options,
        (classify namespaces (WikiText.clean namespaces options)
          (':' :: (name ++ ':' :: page))).value ≠ .replace [])) := by
  have hproper : ∀ name ∈ namespaces.files ++ namespaces.categories, Namespaces.Proper name := by
    rw [hconfigured]
    exact fun name hname => Namespaces.proper_of_mem_ofNames hname
  have hcategories : ∀ name ∈ namespaces.categories, name ∈ namespaces.files ++ namespaces.categories :=
    fun name hname => List.mem_append_right _ hname
  constructor
  · intro name hname written before page after hsame hpage hbefore hinside hafter
    exact resolveAll_drop hname (hproper name (hcategories name hname))
      (hnames name (hcategories name hname)).2 hsame hpage hbefore hinside hafter clean changed
  · intro name hname page hunmarked hpage
    have htarget : Unmarked (name ++ ':' :: page) := hunmarked.append_colon hpage
    have hcategory := isCategory_colon (fun name hname => hproper name (hcategories name hname))
      (fun name hname => (hnames name (hcategories name hname)).1) (name ++ ':' :: page)
    refine ⟨classify_colon hcategory htarget clean, ?_, fun hparenthesis options hnothing => ?_⟩
    · rw [read_colon _ htarget, hcategory]
      rfl
    · rw [classify_colon hcategory htarget] at hnothing
      exact clean_ne_nil_of_colon (htarget.notMem (by decide)) (htarget.notMem (by decide))
        (htarget.notMem (by decide)) hparenthesis namespaces options (Action.replace.inj hnothing)

/-- A category in small letters whose page has a bar and a section, and a colon before a file. -/
theorem resolveAll_category_variant :
    (∀ name ∈ (Namespaces.ofNames ["Datei".toList] ["Kategorie".toList]).files
      ++ (Namespaces.ofNames ["Datei".toList] ["Kategorie".toList]).categories,
      ':' ∉ name ∧ '[' ∉ name ∧ ']' ∉ name) ∧
    List.Forall₂ (sameLetter · · = true) "Kategorie".toList "kATEGORIE".toList ∧
    resolveAll (classify (.ofNames ["Datei".toList] ["Kategorie".toList])
        (pure : Text → Traced ℕ Text)) id "a \n[[kATEGORIE:b|c#d]] e".toList = pure "a e".toList ∧
    Unmarked "Datei".toList ∧ Unmarked "b.jpg".toList ∧
    read (.ofNames ["Datei".toList] ["Kategorie".toList]) ":Datei:b.jpg".toList
      = .shown "Datei:b.jpg".toList := by
  have hnames : ∀ name ∈ (Namespaces.ofNames ["Datei".toList] ["Kategorie".toList]).files
      ++ (Namespaces.ofNames ["Datei".toList] ["Kategorie".toList]).categories,
      ':' ∉ name ∧ '[' ∉ name ∧ ']' ∉ name := by decide
  have hsame : List.Forall₂ (sameLetter · · = true) "Kategorie".toList "kATEGORIE".toList := by
    decide +kernel
  have hname : Unmarked "Datei".toList := by decide
  have hpage : Unmarked "b.jpg".toList := by decide
  obtain ⟨hdrop, hcolon⟩ := resolveAll_category rfl hnames (pure : Text → Traced ℕ Text) id
  have hgone := hdrop "Kategorie".toList (by decide) "kATEGORIE".toList "a \n".toList "b|c#d".toList
    " e".toList hsame (by decide) (by decide) (by decide) (by decide)
  exact ⟨hnames, hsame, hgone, hname, hpage,
    (hcolon "Datei".toList (by decide) "b.jpg".toList hname hpage).2.1⟩

end WikiText.Link
