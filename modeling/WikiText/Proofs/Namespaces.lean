import WikiText.Namespaces.Json
import WikiText.Proofs.Distinct
import WikiText.Proofs.Link.Names

/-!
# Lists of names

A list of names keeps the canonical names in front and takes each given name, trimmed, where it first occurs
(`foldl_addName`). So it is well-formed whatever is given (`listed_foldl`), and a list that is given as it was
kept is kept in the same way again (`Listed.foldl_eq`).

This holds however the names of a wiki are given: as lists, as entries, or in a document.
-/

namespace WikiText.Namespaces

variable {fixed names given : List Text}

/-! ## One list -/

/-- What is given besides the names of a list, each name trimmed and where it first occurs. -/
def newNames (names given : List Text) : List Text :=
  ((given.map Text.trim).filter fun name => name ≠ [] ∧ name ∉ names).eraseDups

/-- The new names are those given, trimmed, that are neither empty nor in the list. -/
theorem mem_newNames {name : Text} :
    name ∈ newNames names given ↔ name ∈ given.map Text.trim ∧ name ≠ [] ∧ name ∉ names := by
  rw [newNames, List.mem_eraseDups, List.mem_filter, decide_eq_true_eq]

/-- One more given name comes last, if it is not empty and not there before. -/
theorem newNames_concat (names given : List Text) (name : Text) :
    newNames names (given ++ [name])
      = if name.trim ≠ [] ∧ name.trim ∉ names ++ newNames names given
        then newNames names given ++ [name.trim] else newNames names given := by
  by_cases hname : name.trim ≠ [] ∧ name.trim ∉ names
  · have hmem : name.trim ∈ (given.map Text.trim).filter (fun name => name ≠ [] ∧ name ∉ names)
        ↔ name.trim ∈ names ++ newNames names given := by
      rw [List.mem_append, or_iff_right hname.2, newNames, List.mem_eraseDups]
    have hlast : ([name].map Text.trim).filter (fun name => name ≠ [] ∧ name ∉ names) = [name.trim] := by
      simp [hname]
    rw [newNames, List.map_append, List.filter_append, hlast, eraseDups_concat]
    simp only [hmem, hname.1, ne_eq, not_false_eq_true, true_and, ite_not]
    rfl
  · have hlast : ([name].map Text.trim).filter (fun name => name ≠ [] ∧ name ∉ names) = [] := by
      simpa using hname
    have hold : ¬ (name.trim ≠ [] ∧ name.trim ∉ names ++ newNames names given) :=
      fun h => hname (h.imp_right (mt (List.mem_append_left _)))
    rw [if_neg hold, newNames, List.map_append, List.filter_append, hlast, List.append_nil, newNames]

/-- A name is added at the end, trimmed, if it is not empty and not there before. -/
theorem addName_eq (names : List Text) (name : Text) :
    addName names name = if name.trim ≠ [] ∧ name.trim ∉ names then names ++ [name.trim] else names := by
  rw [addName]
  by_cases hempty : name.trim = [] <;> by_cases hmem : name.trim ∈ names <;> simp [hempty, hmem]

/-- Names are added at the end of a list, each once. -/
theorem foldl_addName (names given : List Text) :
    given.foldl addName names = names ++ newNames names given := by
  induction given using List.reverseRecOn with
  | nil => exact (List.append_nil names).symm
  | append_singleton given name ih =>
    rw [List.foldl_concat, ih, addName_eq, newNames_concat]
    split
    · exact List.append_assoc _ _ _
    · rfl

/-- A list of names as a wiki keeps it, made from the canonical names and from those that are given. -/
structure Listed (fixed given names : List Text) : Prop where
  prefix_fixed : fixed <+: names
  nodup : names.Nodup
  proper_of_mem : ∀ name ∈ names, Proper name
  mem_iff : ∀ name, name ∈ names ↔ name ∈ fixed ∨ name ≠ [] ∧ name ∈ given.map Text.trim
  /-- New names come in the order in which they first occur. -/
  drop_eq : names.drop fixed.length = newNames fixed given

/-- Whatever is given, the list is well-formed if the names that are fixed are. -/
theorem listed_foldl (hnodup : fixed.Nodup) (hproper : ∀ name ∈ fixed, Proper name)
    (given : List Text) : Listed fixed given (given.foldl addName fixed) where
  prefix_fixed := by
    rw [foldl_addName]
    exact List.prefix_append _ _
  nodup := by
    rw [foldl_addName]
    refine List.Nodup.append hnodup (nodup_eraseDups ((given.map Text.trim).filter _)) ?_
    exact List.disjoint_left.mpr fun name hname hnew => (mem_newNames.mp hnew).2.2 hname
  proper_of_mem := proper_of_mem_foldl given hproper
  mem_iff name := by
    rw [foldl_addName, List.mem_append, mem_newNames]
    by_cases hname : name ∈ fixed
    · simp [hname]
    · simp [hname, and_comm]
  drop_eq := by
    rw [foldl_addName, List.drop_left]

/-- A list that is given as it was kept is kept in the same way again. -/
theorem Listed.foldl_eq (h : Listed fixed given names) : names.foldl addName fixed = names := by
  obtain ⟨added, rfl⟩ := h.prefix_fixed
  obtain ⟨-, hadded, hapart⟩ := List.nodup_append.mp h.nodup
  have htrim : (fixed ++ added).map Text.trim = fixed ++ added := by
    rw [List.map_congr_left fun name hname => Text.trim_of_trimmed (h.proper_of_mem name hname).trimmed]
    exact List.map_id' _
  -- the fixed names are known already, the added ones are all new
  have hold : fixed.filter (fun name => name ≠ [] ∧ name ∉ fixed) = [] := by
    rw [List.filter_eq_nil_iff]
    intro name hname hnew
    exact (of_decide_eq_true hnew).2 hname
  have hnew : added.filter (fun name => name ≠ [] ∧ name ∉ fixed) = added := by
    rw [List.filter_eq_self]
    intro name hname
    have hne := (h.proper_of_mem name (List.mem_append_right _ hname)).nonempty
    exact decide_eq_true ⟨hne, fun hmem => hapart name hmem name hname rfl⟩
  rw [foldl_addName, newNames, htrim, List.filter_append, hold, hnew, List.nil_append,
    eraseDups_of_nodup hadded]

/-! ## The lists of a wiki -/

/-- The lists of a wiki are made from given names, and would be made from themselves in the same way. -/
structure MadeFrom (files categories : List Text) (namespaces : Namespaces) : Prop where
  files : Listed canonical.files files namespaces.files
  categories : Listed canonical.categories categories namespaces.categories
  ofNames_eq : ofNames namespaces.files namespaces.categories = namespaces

/-- The lists that are made from given names are as described. -/
theorem madeFrom_ofNames (files categories : List Text) :
    MadeFrom files categories (ofNames files categories) := by
  have hproper : ∀ name ∈ (ofNames [] []).files ++ (ofNames [] []).categories, Proper name :=
    fun name => proper_of_mem_ofNames
  have hfiles : Listed canonical.files files (ofNames files categories).files :=
    listed_foldl (by decide) (fun name hname => hproper name (List.mem_append_left _ hname)) files
  have hcategories :
      Listed canonical.categories categories (ofNames files categories).categories :=
    listed_foldl (by decide) (fun name hname => hproper name (List.mem_append_right _ hname)) categories
  refine ⟨hfiles, hcategories, ?_⟩
  rw [ofNames, hfiles.foldl_eq, hcategories.foldl_eq]

/-- A value that may be missing, with what is done if it is there. -/
theorem elim_bind_eq_ok {α β : Type} {value : Option α} {failure : Failure} {next : α → Except Failure β}
    {result : β} : (value.elim (.error failure) .ok >>= next) = .ok result ↔
      ∃ a, value = some a ∧ next a = .ok result := by
  cases value with
  | none => simp [bind, Except.bind]
  | some a => simp [bind, Except.bind]

/-- A document that is read has an entry under each of the two names. -/
theorem exists_of_ofJson {document : Text} {namespaces : Namespaces}
    (h : ofJson document = .ok namespaces) :
    ∃ entries file category, (Json.parse? document).bind entriesOf? = some entries ∧
      entryUnder? entries "File" = some file ∧ entryUnder? entries "Category" = some category ∧
      ofEntries file category = namespaces := by
  obtain ⟨entries, hentries, h⟩ := elim_bind_eq_ok.mp h
  obtain ⟨file, hfile, h⟩ := elim_bind_eq_ok.mp h
  obtain ⟨category, hcategory, h⟩ := elim_bind_eq_ok.mp h
  exact ⟨entries, file, category, hentries, hfile, hcategory, Except.ok.inj h⟩

/-- **The lists of names of a wiki are well-formed**, however its own names are given. Each begins with the
canonical names and holds every given name, trimmed, that is not empty, in the order in which they first occur
and without repetitions; and it holds nothing else. Given again, the lists lead to the same wiki. -/
theorem lists_wellFormed :
    (∀ files categories, MadeFrom files categories (ofNames files categories)) ∧
    (∀ file category : Entry, MadeFrom file.names category.names (ofEntries file category)) ∧
    ∀ document namespaces, ofJson document = .ok namespaces →
      ∃ entries file category, (Json.parse? document).bind entriesOf? = some entries ∧
        entryUnder? entries "File" = some file ∧ entryUnder? entries "Category" = some category ∧
        MadeFrom file.names category.names namespaces := by
  refine ⟨madeFrom_ofNames, fun file category => madeFrom_ofNames file.names category.names, ?_⟩
  intro document namespaces h
  obtain ⟨entries, file, category, hentries, hfile, hcategory, rfl⟩ := exists_of_ofJson h
  exact ⟨entries, file, category, hentries, hfile, hcategory, madeFrom_ofNames file.names category.names⟩

/-- A document with names that are blank, canonical, or given twice. -/
def document : Text :=
  "\x7b\"File\":[6,\" Datei\",[\"\",\"File \",\"Datei\"]],\"Category\":\x7b\"name\":\"Kategorie\"\x7d\x7d".toList

/-- The namespaces that the document gives. -/
def documented : Namespaces where
  files := ["File".toList, "Image".toList, "Datei".toList]
  categories := ["Category".toList, "Kategorie".toList]

/-- The lists that are made from the entries of a document. -/
theorem lists_wellFormed_document :
    ofJson document = .ok documented ∧
      ∃ file category : Entry, MadeFrom file.names category.names documented := by
  have hread : ofJson document = .ok documented := by decide +kernel
  obtain ⟨-, file, category, -, -, -, hmade⟩ := lists_wellFormed.2.2 document documented hread
  exact ⟨hread, file, category, hmade⟩

end WikiText.Namespaces
