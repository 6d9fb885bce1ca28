import WikiText.Arguments
import WikiText.Proofs.Clean.Spacing
import WikiText.Proofs.Distinct

/-!
# Arguments under one name

Names that become equal when they are cleaned are one name. It stands where the first of them stood, and what it
names is the last text that any of them named. The two come from different arguments, so they are kept apart:
`map_fst_ofPairs` says which names there are and in what order, `mem_ofPairs` which text each of them has. Both
follow by induction from what one argument more does (`map_fst_put`, `mem_put`).
-/

namespace WikiText.Arguments

variable {arguments : Arguments} {name text : Text}

/-! ## One argument more -/

/-- Putting a text under a name adds the name at the end, unless it is there. -/
theorem map_fst_put (name text : Text) (arguments : Arguments) :
    (put name text arguments).map Prod.fst
      = if name ∈ arguments.map Prod.fst then arguments.map Prod.fst
        else arguments.map Prod.fst ++ [name] := by
  induction arguments with
  | nil => rfl
  | cons argument arguments ih =>
    obtain ⟨other, old⟩ := argument
    rw [put]
    by_cases hname : other = name
    · simp [hname]
    · rw [if_neg hname, List.map_cons, List.map_cons, ih]
      by_cases hmem : name ∈ arguments.map Prod.fst
      · rw [if_pos hmem, if_pos (List.mem_cons_of_mem _ hmem)]
      · rw [if_neg hmem, if_neg (List.not_mem_cons_of_ne_of_not_mem (Ne.symm hname) hmem)]
        rfl

/-- An argument more changes what its name names, and nothing else. -/
theorem mem_put (h : (arguments.map Prod.fst).Nodup) {name text other value : Text} :
    (other, value) ∈ put name text arguments ↔
      other = name ∧ value = text ∨ other ≠ name ∧ (other, value) ∈ arguments := by
  induction arguments with
  | nil => simp [put]
  | cons argument arguments ih =>
    obtain ⟨first, old⟩ := argument
    obtain ⟨hfirst, harguments⟩ := List.nodup_cons.mp h
    rw [put]
    by_cases hname : first = name
    · subst hname
      -- names do not repeat, so the old text stands nowhere else
      by_cases hother : other = first
      · subst hother
        have hold : (other, value) ∉ arguments := fun hmem => hfirst (List.mem_map.mpr ⟨_, hmem, rfl⟩)
        simp [hold]
      · simp [hother]
    · rw [if_neg hname, List.mem_cons, ih harguments]
      by_cases hother : other = name
      · subst hother
        simp [Ne.symm hname]
      · simp [hother]

/-- One more pair is put last. -/
theorem ofPairs_concat (pairs : List (Text × Text)) (name text : Text) :
    ofPairs (pairs ++ [(name, text)]) = put name text (ofPairs pairs) :=
  List.foldl_concat _ _ _ _

/-! ## Pairs one after the other -/

/-- Each name stands where it is given first. -/
theorem map_fst_ofPairs (pairs : List (Text × Text)) :
    (ofPairs pairs).map Prod.fst = (pairs.map Prod.fst).eraseDups := by
  induction pairs using List.reverseRecOn with
  | nil => rfl
  | append_singleton pairs pair ih =>
    rw [ofPairs_concat, map_fst_put, ih, List.map_append, List.map_singleton, eraseDups_concat]
    simp only [List.mem_eraseDups]

/-- Under each name there is one text. -/
theorem nodup_ofPairs (pairs : List (Text × Text)) : ((ofPairs pairs).map Prod.fst).Nodup := by
  rw [map_fst_ofPairs]
  exact nodup_eraseDups _

/-- Each name names the text that it is given last. -/
theorem mem_ofPairs {pairs : List (Text × Text)} :
    (name, text) ∈ ofPairs pairs ↔
      ∃ before after, pairs = before ++ (name, text) :: after ∧ name ∉ after.map Prod.fst := by
  induction pairs using List.reverseRecOn with
  | nil => simp [ofPairs]
  | append_singleton pairs pair ih =>
    obtain ⟨last, value⟩ := pair
    rw [ofPairs_concat, mem_put (nodup_ofPairs pairs), ih]
    constructor
    · rintro (⟨rfl, rfl⟩ | ⟨hne, before, after, rfl, hlater⟩)
      · exact ⟨pairs, [], rfl, List.not_mem_nil⟩
      · refine ⟨before, after ++ [(last, value)], by simp, ?_⟩
        simpa [hne] using hlater
    · rintro ⟨before, after, heq, hlater⟩
      -- the pair that is asked for is the last one, or stands before it
      rcases List.eq_nil_or_concat after with rfl | ⟨between, pair, rfl⟩
      · obtain ⟨-, hpair⟩ := List.append_inj' heq rfl
        cases hpair
        exact .inl ⟨rfl, rfl⟩
      · rw [List.concat_eq_append, ← List.cons_append, ← List.append_assoc] at heq
        obtain ⟨rfl, hpair⟩ := List.append_inj' heq rfl
        cases hpair
        rw [List.concat_eq_append, List.map_append, List.mem_append, not_or] at hlater
        exact .inr ⟨fun hname => hlater.2 (by simp [hname]), before, between, rfl, hlater.1⟩

/-! ## Cleaned arguments -/

/-- What becomes of a name. -/
def cleanedName (namespaces : Namespaces) (name : Text) : Text :=
  (WikiText.clean namespaces .tagged name).value

/-- What becomes of a text. -/
def cleanedText (namespaces : Namespaces) (keepSpace : Bool) (text : Text) : Text :=
  (WikiText.clean namespaces { Options.tagged with keepSpace } text).value

/-- Cleaned arguments are the pairs of cleaned names and texts, put one after the other. -/
theorem value_clean (namespaces : Namespaces) (keepSpace : Bool) (arguments : Arguments) :
    (arguments.clean namespaces keepSpace).value = ofPairs (arguments.map fun argument =>
      (cleanedName namespaces argument.1, cleanedText namespaces keepSpace argument.2)) := by
  rw [clean, Traced.value_bind, Traced.value_traverse]
  rfl

variable {namespaces : Namespaces} {keepSpace : Bool}

/-- The names of cleaned arguments are the cleaned names without repetitions, each at its first place. -/
theorem map_fst_clean :
    (arguments.clean namespaces keepSpace).value.map Prod.fst
      = (arguments.map fun argument => cleanedName namespaces argument.1).eraseDups := by
  rw [value_clean, map_fst_ofPairs, List.map_map]
  rfl

/-- The text under a name is that of the last argument whose name is cleaned to it. -/
theorem mem_clean :
    (name, text) ∈ (arguments.clean namespaces keepSpace).value ↔
      ∃ before argument after, arguments = before ++ argument :: after ∧
        cleanedName namespaces argument.1 = name ∧
        cleanedText namespaces keepSpace argument.2 = text ∧
        ∀ later ∈ after, cleanedName namespaces later.1 ≠ name := by
  rw [value_clean, mem_ofPairs]
  constructor
  · rintro ⟨before, after, heq, hlater⟩
    obtain ⟨front, back, rfl, -, hback⟩ := List.map_eq_append_iff.mp heq
    obtain ⟨argument, rest, rfl, hargument, rfl⟩ := List.map_eq_cons_iff.mp hback
    cases hargument
    refine ⟨front, argument, rest, rfl, rfl, rfl, fun later hmem hsame => hlater ?_⟩
    rw [List.map_map]
    exact List.mem_map.mpr ⟨later, hmem, hsame⟩
  · rintro ⟨before, argument, after, rfl, rfl, rfl, hlater⟩
    refine ⟨before.map _, after.map _, List.map_append, ?_⟩
    rw [List.map_map, List.mem_map]
    rintro ⟨later, hmem, hsame⟩
    exact hlater later hmem hsame

/-- **Arguments merge under their cleaned names.** There is one argument for each cleaned name, at the place of
the first name that becomes this one, and its text is the cleaned text of the last. No argument is lost
otherwise, and there is no white space around names, whether that around texts is kept or not. -/
theorem clean_merges (namespaces : Namespaces) (keepSpace : Bool) (arguments : Arguments) :
    let merged := (arguments.clean namespaces keepSpace).value
    merged.map Prod.fst = (arguments.map fun argument => cleanedName namespaces argument.1).eraseDups ∧
    (merged.map Prod.fst).Nodup ∧
    (∀ name text, (name, text) ∈ merged ↔
      ∃ before argument after, arguments = before ++ argument :: after ∧
        cleanedName namespaces argument.1 = name ∧
        cleanedText namespaces keepSpace argument.2 = text ∧
        ∀ later ∈ after, cleanedName namespaces later.1 ≠ name) ∧
    (∀ argument ∈ arguments, cleanedName namespaces argument.1 ∈ merged.map Prod.fst) ∧
    ∀ name ∈ merged.map Prod.fst, Text.Trimmed name := by
  intro merged
  have hnames : merged.map Prod.fst = _ := map_fst_clean
  refine ⟨hnames, ?_, fun name text => mem_clean, ?_, ?_⟩
  · rw [hnames]
    exact nodup_eraseDups _
  · intro argument hargument
    rw [hnames, List.mem_eraseDups]
    exact List.mem_map.mpr ⟨argument, hargument, rfl⟩
  · intro name hname
    rw [hnames, List.mem_eraseDups, List.mem_map] at hname
    obtain ⟨argument, -, rfl⟩ := hname
    exact trimmed_clean namespaces true argument.1

/-- Two arguments of which the names become one, with another between them. -/
def sample : Arguments :=
  [("a".toList, "1".toList), ("b".toList, "2".toList), (" [[a]]".toList, " 3".toList)]

/-- Two names that are cleaned to the same one, of which the later text stays. -/
theorem clean_merges_sample :
    (sample.clean .canonical true).value.map Prod.fst = ["a".toList, "b".toList] ∧
      ("a".toList, " 3".toList) ∈ (sample.clean .canonical true).value ∧ Text.Trimmed "a".toList := by
  obtain ⟨hnames, -, hmem, hkept, htrimmed⟩ := clean_merges .canonical true sample
  have hcleaned : sample.map (fun argument => cleanedName .canonical argument.1)
      = ["a".toList, "b".toList, "a".toList] := by
    decide +kernel
  have hname : cleanedName .canonical " [[a]]".toList = "a".toList := by decide +kernel
  have htext : cleanedText .canonical true " 3".toList = " 3".toList := by decide +kernel
  have hlast : (" [[a]]".toList, " 3".toList) ∈ sample := by decide
  have hthere := hkept _ hlast
  rw [hname] at hthere
  rw [hcleaned] at hnames
  refine ⟨hnames, (hmem _ _).mpr ⟨sample.take 2, _, [], rfl, hname, htext, ?_⟩, htrimmed _ hthere⟩
  exact fun _ h => absurd h List.not_mem_nil

end WikiText.Arguments
