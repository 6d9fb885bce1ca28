import Mathlib.Data.List.Nodup
import Mathlib.Logic.Relation
import WikiText.Proofs.Namespaces.Entry

/-!
# What a document is loaded from

Every member of a document has to describe an entry, also one that is not needed and one that a later member
replaces. Then the names of the last entry under each of the two names that are needed are all that is read
(`ofJson_eq`). So a document is loaded alike after any change that keeps these names and leaves every member
sound: one step keeps both (`Edit.agree`), and with it any number of steps back and forth (`agree_of_eqvGen`).
-/

namespace WikiText.Namespaces

variable {members members' front back : List (Option Text × Json)} {member : Option Text × Json}
  {document : Text} {entries : List (Text × Entry)} {name : String}

/-! ## Sound members -/

/-- A member that can be read: its name is a text, and its value describes an entry. -/
def Sound (member : Option Text × Json) : Prop :=
  member.1.isSome ∧ ∃ entry, Describes member.2 entry

/-- The document is an object with these members, each of them sound. -/
structure Lists (document : Text) (members : List (Option Text × Json)) : Prop where
  parse_eq : Json.parse? document = some (.object members)
  sound : ∀ member ∈ members, Sound member

/-- The last value under the name describes the entry. -/
def LastUnder (name : String) (members : List (Option Text × Json)) (entry : Entry) : Prop :=
  ∃ value, (valuesUnder (some name.toList) members).getLast? = some value ∧ Describes value entry

/-- One more member adds its entry at the end. -/
theorem entriesOf?_concat_eq_some_iff :
    entriesOf? (.object (members ++ [member])) = some entries ↔
      ∃ earlier name entry, entriesOf? (.object members) = some earlier ∧ member.1 = some name ∧
        Describes member.2 entry ∧ earlier ++ [(name, entry)] = entries := by
  simp only [entriesOf?, List.mapM_append, List.mapM_cons, List.mapM_nil, Option.bind_eq_bind,
    Option.bind_eq_some_iff, Option.pure_def, Option.some.injEq, entryOf?_eq_some_iff]
  constructor
  · rintro ⟨earlier, hearlier, _, ⟨_, ⟨name, hname, entry, hentry, rfl⟩, _, rfl, rfl⟩, rfl⟩
    exact ⟨earlier, name, entry, hearlier, hname, hentry, rfl⟩
  · rintro ⟨earlier, name, entry, hearlier, hname, hentry, rfl⟩
    exact ⟨earlier, hearlier, _, ⟨_, ⟨name, hname, entry, hentry, rfl⟩, _, rfl, rfl⟩, rfl⟩

/-- There are entries if every member is sound. -/
theorem exists_entriesOf?_iff :
    (∃ entries, entriesOf? (.object members) = some entries) ↔ ∀ member ∈ members, Sound member := by
  induction members using List.reverseRecOn with
  | nil => exact ⟨fun _ => nofun, fun _ => ⟨[], rfl⟩⟩
  | append_singleton members member ih =>
    rw [List.forall_mem_append, List.forall_mem_singleton, ← ih, Sound, Option.isSome_iff_exists]
    simp only [entriesOf?_concat_eq_some_iff]
    constructor
    · rintro ⟨_, earlier, name, entry, hearlier, hname, hentry, -⟩
      exact ⟨⟨earlier, hearlier⟩, ⟨name, hname⟩, entry, hentry⟩
    · rintro ⟨⟨earlier, hearlier⟩, ⟨name, hname⟩, entry, hentry⟩
      exact ⟨_, earlier, name, entry, hearlier, hname, hentry, rfl⟩

/-! ## The names that are read -/

/-- The names in a value. -/
def namesOf? (value : Json) : Option (List Text) :=
  (entryOf? value).map Entry.names

/-- The names that are read from a value are those that it spells. -/
theorem namesOf?_eq_some_iff {value : Json} {names : List Text} :
    namesOf? value = some names ↔ Spells value names := by
  simp only [namesOf?, Option.map_eq_some_iff, entryOf?_eq_some_iff, Spells]

/-- The names in the last value under a name. -/
def lastNames? (name : String) (members : List (Option Text × Json)) : Option (List Text) :=
  (valuesUnder (some name.toList) members).getLast?.bind namesOf?

/-- One more member replaces the names, if it stands under the name. -/
theorem lastNames?_concat :
    lastNames? name (members ++ [member])
      = if member.1 = some name.toList then namesOf? member.2 else lastNames? name members := by
  by_cases h : member.1 = some name.toList <;> simp [lastNames?, h]

/-- Members do not matter before one under the same name. -/
theorem lastNames?_append_of_ne_nil (h : valuesUnder (some name.toList) back ≠ []) :
    lastNames? name (front ++ back) = lastNames? name back := by
  rw [lastNames?, valuesUnder_append, List.getLast?_append_of_ne_nil _ h, lastNames?]

/-- One more entry replaces the one under its name. -/
theorem entryUnder?_concat (key : Text) (entry : Entry) :
    entryUnder? (entries ++ [(key, entry)]) name
      = if key = name.toList then some entry else entryUnder? entries name := by
  rw [entryUnder?, List.reverse_concat, List.lookup_cons, entryUnder?]
  by_cases h : key = name.toList
  · rw [if_pos h, h, beq_self_eq_true]
  · rw [if_neg h, beq_eq_false_iff_ne.mpr (Ne.symm h)]

/-- The entry that counts is described by the last value under its name. -/
theorem lastNames?_eq (h : entriesOf? (.object members) = some entries) :
    lastNames? name members = (entryUnder? entries name).map Entry.names := by
  induction members using List.reverseRecOn generalizing entries with
  | nil =>
    obtain rfl : [] = entries := Option.some.inj h
    rfl
  | append_singleton members member ih =>
    obtain ⟨earlier, key, entry, hearlier, hkey, hentry, rfl⟩ := entriesOf?_concat_eq_some_iff.mp h
    simp only [lastNames?_concat, entryUnder?_concat, ih hearlier, hkey, Option.some.injEq]
    split
    · exact namesOf?_eq_some_iff.mpr ⟨entry, hentry, rfl⟩
    · rfl

/-- A document that is no object of sound members is invalid. The sentence does not say what is wrong. -/
theorem ofJson_of_not_lists (h : ¬ ∃ members, Lists document members) :
    ofJson document = .error (.invalidConfig "malformed namespace data") := by
  have hnone : (Json.parse? document).bind entriesOf? = none := by
    rw [Option.eq_none_iff_forall_ne_some]
    intro entries hentries
    obtain ⟨value, hparse, hentries⟩ := Option.bind_eq_some_iff.mp hentries
    cases value with
    | object members => exact h ⟨members, hparse, exists_entriesOf?_iff.mp ⟨entries, hentries⟩⟩
    | _ => cases hentries
  rw [ofJson, hnone]
  rfl

/-- The namespaces with these names, both of which have to be there. -/
def ofNames? (files categories : Option (List Text)) : Except Failure Namespaces := do
  let files ← files.elim (.error (.missingNamespace "File")) .ok
  let categories ← categories.elim (.error (.missingNamespace "Category")) .ok
  return ofNames files categories

/-- Only the names of two entries are read. -/
theorem ofJson_eq (h : Lists document members) :
    ofJson document = ofNames? (lastNames? "File" members) (lastNames? "Category" members) := by
  obtain ⟨entries, hentries⟩ := exists_entriesOf?_iff.mpr h.sound
  simp only [ofJson, h.parse_eq, Option.bind_some, hentries, Option.elim_some, lastNames?_eq hentries, bind,
    Except.bind]
  cases entryUnder? entries "File" <;> cases entryUnder? entries "Category" <;> rfl

/-- Without values under a name there are no names. -/
theorem lastNames?_eq_none (h : valuesUnder (some name.toList) members = []) :
    lastNames? name members = none := by
  rw [lastNames?, h]
  rfl

/-- The names under a name are those of its last entry. -/
theorem LastUnder.lastNames?_eq {entry : Entry} (h : LastUnder name members entry) :
    lastNames? name members = some entry.names := by
  obtain ⟨value, hlast, hentry⟩ := h
  rw [lastNames?, hlast]
  exact namesOf?_eq_some_iff.mpr ⟨entry, hentry, rfl⟩

/-- Where each member is sound, the last one under a name has an entry. -/
theorem exists_lastUnder (hsound : ∀ member ∈ members, Sound member)
    (hne : valuesUnder (some name.toList) members ≠ []) : ∃ entry, LastUnder name members entry := by
  have hlast := List.getLast?_eq_some_getLast hne
  have hmem := mem_valuesUnder.mp (List.getLast_mem hne)
  obtain ⟨-, entry, hentry⟩ := hsound _ hmem
  exact ⟨entry, _, hlast, hentry⟩

/-! ## Changes that make no difference -/

/-- The names of the namespaces that are needed. -/
def needed : List String :=
  ["File", "Category"]

/-- A change of the members that makes no difference. -/
inductive Edit : List (Option Text × Json) → List (Option Text × Json) → Prop where
  /-- Members under different names change places, and those under one name do not. -/
  | rearranged {members members' : List (Option Text × Json)}
      (h : ∀ name, valuesUnder name members = valuesUnder name members') : Edit members members'
  /-- A sound member is added that is not needed or that a later one replaces. -/
  | added {front back : List (Option Text × Json)} {member : Option Text × Json} (hsound : Sound member)
      (h : (∀ name ∈ needed, member.1 ≠ some name.toList) ∨ valuesUnder member.1 back ≠ []) :
      Edit (front ++ back) (front ++ member :: back)
  /-- An entry is changed, but not its names. -/
  | changed {front back : List (Option Text × Json)} {name : Option Text} {value value' : Json}
      (h : EntryEdit value value') : Edit (front ++ (name, value) :: back) (front ++ (name, value') :: back)

/-- Members under distinct names may stand in any order. -/
theorem Edit.of_perm (hperm : members.Perm members') (hnodup : (members.map Prod.fst).Nodup) :
    Edit members members' := by
  refine .rearranged fun name => congrArg (List.map Prod.snd) ?_
  -- at most one member is under the name, so there is nothing to put in order
  have hpairwise (all : List (Option Text × Json)) (hall : (all.map Prod.fst).Nodup) :
      (all.filter fun member => member.1 = name).Pairwise fun _ _ => False := by
    have hne : all.Pairwise fun first second => first.1 ≠ second.1 := List.pairwise_map.mp hall
    refine (hne.filter _).imp_of_mem fun hfirst hsecond hne => hne ?_
    rw [of_decide_eq_true (List.mem_filter.mp hfirst).2, of_decide_eq_true (List.mem_filter.mp hsecond).2]
  refine List.Perm.eq_of_pairwise nofun (hpairwise members hnodup) (hpairwise members' ?_) (hperm.filter _)
  exact (hperm.map Prod.fst).nodup_iff.mp hnodup

/-- Two lists of members agree in what is read of them. -/
structure Agree (members members' : List (Option Text × Json)) : Prop where
  sound_iff : (∀ member ∈ members, Sound member) ↔ ∀ member ∈ members', Sound member
  lastNames?_eq : ∀ name ∈ needed, lastNames? name members = lastNames? name members'

/-- A change of an entry that leaves its names leaves the member sound or unsound. -/
theorem EntryEdit.sound_iff {key : Option Text} {value value' : Json} (h : EntryEdit value value') :
    Sound (key, value) ↔ Sound (key, value') := by
  refine and_congr Iff.rfl ?_
  constructor
  · rintro ⟨entry, hentry⟩
    obtain ⟨entry', hentry', -⟩ := h.spells_iff.mp ⟨entry, hentry, rfl⟩
    exact ⟨entry', hentry'⟩
  · rintro ⟨entry, hentry⟩
    obtain ⟨entry', hentry', -⟩ := h.spells_iff.mpr ⟨entry, hentry, rfl⟩
    exact ⟨entry', hentry'⟩

/-- One change keeps what is read. -/
theorem Edit.agree (h : Edit members members') : Agree members members' := by
  cases h with
  | rearranged h =>
    refine ⟨forall_congr' fun member => ?_, fun name _ => ?_⟩
    · rw [← mem_valuesUnder, h, mem_valuesUnder]
    · rw [lastNames?, h, lastNames?]
  | @added front back member hsound h =>
    refine ⟨?_, fun name hname => ?_⟩
    · simp only [List.forall_mem_append, List.forall_mem_cons, hsound, true_and]
    -- a member that is needed is added only before another one under its name
    · by_cases hmember : member.1 = some name.toList
      · have hback : valuesUnder (some name.toList) back ≠ [] :=
          hmember ▸ h.resolve_left fun h => h name hname hmember
        rw [List.append_cons, lastNames?_append_of_ne_nil hback, lastNames?_append_of_ne_nil hback]
      · rw [lastNames?, lastNames?, valuesUnder_append_cons_of_ne hmember]
  | @changed front back key value value' h =>
    refine ⟨?_, fun name _ => ?_⟩
    · simp only [List.forall_mem_append, List.forall_mem_cons, h.sound_iff]
    -- under the name itself, the change matters if the member is the last one
    · by_cases hkey : key = some name.toList
      · subst hkey
        have hnames : namesOf? value = namesOf? value' :=
          Option.ext fun names => by rw [namesOf?_eq_some_iff, namesOf?_eq_some_iff, h.spells_iff]
        by_cases hback : valuesUnder (some name.toList) back = []
        · rw [lastNames?, lastNames?, valuesUnder_append_cons_self, valuesUnder_append_cons_self, hback,
            List.getLast?_concat, List.getLast?_concat]
          exact hnames
        · rw [List.append_cons, lastNames?_append_of_ne_nil hback, List.append_cons front _ back,
            lastNames?_append_of_ne_nil hback]
      · rw [lastNames?, lastNames?, valuesUnder_append_cons_of_ne hkey, valuesUnder_append_cons_of_ne hkey]

/-- Members that are changed step by step agree with what they were. -/
theorem agree_of_eqvGen (h : Relation.EqvGen Edit members members') : Agree members members' := by
  induction h with
  | rel _ _ h => exact h.agree
  | refl _ => exact ⟨Iff.rfl, fun _ _ => rfl⟩
  | symm _ _ _ ih => exact ⟨ih.sound_iff.symm, fun name hname => (ih.lastNames?_eq name hname).symm⟩
  | trans _ _ _ _ _ first second =>
    exact ⟨first.sound_iff.trans second.sound_iff,
      fun name hname => (first.lastNames?_eq name hname).trans (second.lastNames?_eq name hname)⟩

/-- The members that are read from such a document are sound. -/
theorem Lists.sound_of_parse_eq (h : Lists document members)
    (hparse : Json.parse? document = some (.object members')) : ∀ member ∈ members', Sound member := by
  obtain rfl := Json.object.inj (Option.some.inj (h.parse_eq.symm.trans hparse))
  exact h.sound

/-- Documents with members that agree are loaded alike. -/
theorem Agree.ofJson_eq {other : Text} (h : Agree members members')
    (hdocument : Json.parse? document = some (.object members))
    (hother : Json.parse? other = some (.object members')) : ofJson document = ofJson other := by
  by_cases hsound : ∀ member ∈ members, Sound member
  · have hlists : Lists document members := ⟨hdocument, hsound⟩
    have hlists' : Lists other members' := ⟨hother, h.sound_iff.mp hsound⟩
    rw [Namespaces.ofJson_eq hlists, Namespaces.ofJson_eq hlists', h.lastNames?_eq "File" (by simp [needed]),
      h.lastNames?_eq "Category" (by simp [needed])]
  · rw [ofJson_of_not_lists fun ⟨_, hlists⟩ => hsound (hlists.sound_of_parse_eq hdocument),
      ofJson_of_not_lists fun ⟨_, hlists⟩ => hsound (h.sound_iff.mpr (hlists.sound_of_parse_eq hother))]

/-- **Loading depends on two entries only, and the first thing that is wrong decides.** A document that is no
object of sound members is invalid, whichever member is at fault. Otherwise a namespace for files has to be
there, then one for categories, and with both the last entry of each makes the result. So changes that leave the
names in these two entries, and leave every member sound, make no difference. -/
theorem ofJson_outcome (document : Text) :
    ((¬ ∃ members, Lists document members) → ∃ message, ofJson document = .error (.invalidConfig message)) ∧
    (∀ members, Lists document members →
      (valuesUnder (some "File".toList) members = [] →
        ofJson document = .error (.missingNamespace "File")) ∧
      (valuesUnder (some "File".toList) members ≠ [] → valuesUnder (some "Category".toList) members = [] →
        ofJson document = .error (.missingNamespace "Category")) ∧
      (valuesUnder (some "File".toList) members ≠ [] → valuesUnder (some "Category".toList) members ≠ [] →
        ∃ file category, LastUnder "File" members file ∧ LastUnder "Category" members category ∧
          ofJson document = .ok (ofEntries file category))) ∧
    ∀ members, Json.parse? document = some (.object members) →
      ∀ other members', Json.parse? other = some (.object members') → Relation.EqvGen Edit members members' →
        ofJson other = ofJson document := by
  refine ⟨fun h => ⟨_, ofJson_of_not_lists h⟩, fun members h => ⟨fun hfile => ?_, fun hfile hcategory => ?_,
    fun hfile hcategory => ?_⟩, fun members hdocument other members' hother h => ?_⟩
  · rw [ofJson_eq h, lastNames?_eq_none hfile]
    rfl
  · obtain ⟨file, hfile⟩ := exists_lastUnder h.sound hfile
    rw [ofJson_eq h, hfile.lastNames?_eq, lastNames?_eq_none hcategory]
    rfl
  · obtain ⟨file, hfile⟩ := exists_lastUnder h.sound hfile
    obtain ⟨category, hcategory⟩ := exists_lastUnder h.sound hcategory
    refine ⟨file, category, hfile, hcategory, ?_⟩
    rw [ofJson_eq h, hfile.lastNames?_eq, hcategory.lastNames?_eq]
    rfl
  · exact ((agree_of_eqvGen h).ofJson_eq hdocument hother).symm

/-- An entry for files, as a list. -/
def fileMember (number : String) : Option Text × Json :=
  (some "File".toList, .array [.number number.toList, .string (some "Datei".toList)])

/-- An entry that is not needed. -/
def talkMember : Option Text × Json :=
  (some "Talk".toList, .array [.number "1".toList, .string (some "Seite".toList)])

/-- An entry for categories, as an object with a name and more. -/
def categoryMember (others : List (Option Text × Json)) : Option Text × Json :=
  (some "Category".toList, .object ((some "name".toList, .string (some "Kategorie".toList)) :: others))

/-- An entry for files that gives its number twice. -/
def brokenMember : Option Text × Json :=
  (some "File".toList, .object [(some "id".toList, .number "6".toList), (some "id".toList, .number "6".toList),
    (some "name".toList, .string (some "Bild".toList))])

/-- A document with an entry that is not needed. -/
def written : Text :=
  "\x7b\"File\":[6,\"Datei\"],\"Talk\":[1,\"Seite\"],\"Category\":\x7b\"name\":\"Kategorie\"\x7d\x7d".toList

/-- The document without that entry, in another order, with another number and a member that is not known. -/
def rewritten : Text :=
  "\x7b\"Category\":\x7b\"name\":\"Kategorie\",\"case\":null\x7d,\"File\":[0,\"Datei\"]\x7d".toList

/-- A document with an entry that cannot be read and is replaced by a later one. -/
def replaced : Text :=
  "\x7b\"File\":\x7b\"id\":6,\"id\":6,\"name\":\"Bild\"\x7d,\"File\":[6,\"Datei\"]\x7d".toList

/-- The entry for files is sound. -/
theorem sound_fileMember : Sound (fileMember "6") :=
  ⟨rfl, _, .pair rfl rfl⟩

/-- The entry that is not needed is sound. -/
theorem sound_talkMember : Sound talkMember :=
  ⟨rfl, _, .pair rfl rfl⟩

/-- The first document is an object with these three members. -/
theorem lists_written : Lists written [fileMember "6", talkMember, categoryMember []] := by
  have hcategory : Sound (categoryMember []) := ⟨rfl, _, entryOf?_eq_some_iff.mp rfl⟩
  refine ⟨rfl, List.forall_mem_cons.mpr ⟨sound_fileMember, List.forall_mem_cons.mpr ⟨sound_talkMember, ?_⟩⟩⟩
  exact List.forall_mem_singleton.mpr hcategory

/-- The members of the third document are not all sound. -/
theorem not_lists_replaced : ¬ ∃ members, Lists replaced members := by
  rintro ⟨members, h⟩
  have hparse : Json.parse? replaced = some (.object [brokenMember, fileMember "6"]) := rfl
  obtain ⟨-, entry, hentry⟩ := h.sound_of_parse_eq hparse brokenMember List.mem_cons_self
  cases entryOf?_eq_some_iff.mpr hentry

/-- The members of the second document are those of the first, changed step by step. -/
theorem eqvGen_rewritten :
    Relation.EqvGen Edit [fileMember "6", talkMember, categoryMember []]
      [categoryMember [(some "case".toList, .null)], fileMember "0"] := by
  have hadded : Edit ([fileMember "6"] ++ [categoryMember []])
      ([fileMember "6"] ++ talkMember :: [categoryMember []]) :=
    .added sound_talkMember (.inl (by decide))
  have hnumber : Edit ([] ++ fileMember "6" :: [categoryMember []])
      ([] ++ fileMember "0" :: [categoryMember []]) :=
    .changed (.first rfl rfl)
  have hunknown : EntryEdit (.object ([(some "name".toList, .string (some "Kategorie".toList))] ++ []))
      (.object ([(some "name".toList, .string (some "Kategorie".toList))] ++ [(some "case".toList, .null)])) :=
    .unknown (by decide)
  have hmember : Edit ([fileMember "0"] ++ categoryMember [] :: [])
      ([fileMember "0"] ++ categoryMember [(some "case".toList, .null)] :: []) :=
    .changed hunknown
  have hperm : Edit [fileMember "0", categoryMember [(some "case".toList, .null)]]
      [categoryMember [(some "case".toList, .null)], fileMember "0"] :=
    .of_perm (.swap _ _ _) (by decide)
  -- the member that is no namespace goes, the number changes, a key is added, and the order turns
  refine .trans _ _ _ (.symm _ _ (.rel _ _ hadded)) (.trans _ _ _ (.rel _ _ hnumber) ?_)
  exact .trans _ _ _ (.rel _ _ hmember) (.rel _ _ hperm)

/-- An entry that cannot be read, one that is missing, and two documents that give the same. -/
theorem ofJson_outcome_rewritten :
    (∃ message, ofJson replaced = .error (.invalidConfig message)) ∧
    ofJson "\x7b\x7d".toList = .error (.missingNamespace "File") ∧
    ofJson "\x7b\"File\":[6,\"Datei\"]\x7d".toList = .error (.missingNamespace "Category") ∧
    (∃ file category, ofJson written = .ok (ofEntries file category)) ∧ ofJson rewritten = ofJson written := by
  have hempty : Lists "\x7b\x7d".toList [] := ⟨rfl, nofun⟩
  have hfile : Lists "\x7b\"File\":[6,\"Datei\"]\x7d".toList [fileMember "6"] :=
    ⟨rfl, List.forall_mem_singleton.mpr sound_fileMember⟩
  obtain ⟨file, category, -, -, hboth⟩ :=
    ((ofJson_outcome written).2.1 _ lists_written).2.2 (List.cons_ne_nil _ _) (List.cons_ne_nil _ _)
  refine ⟨(ofJson_outcome replaced).1 not_lists_replaced, ?_, ?_, ⟨file, category, hboth⟩, ?_⟩
  · exact ((ofJson_outcome _).2.1 _ hempty).1 rfl
  · exact ((ofJson_outcome _).2.1 _ hfile).2.1 (List.cons_ne_nil _ _) rfl
  · exact (ofJson_outcome written).2.2 _ lists_written.parse_eq _ _ rfl eqvGen_rewritten

end WikiText.Namespaces
