import Mathlib.Data.List.Induction
import WikiText.Namespaces.Json

/-!
# Entries as they are written

An entry is read member by member. What comes out in the end depends on the values under the three known
names alone: each of them may be missing or given once, and the name has to be there (`entryOf?_eq_some_iff`).
So the names that an entry spells stay the same when its number changes or is left out, and when a field that
is not known comes or goes (`EntryEdit.spells_iff`).
-/

namespace WikiText.Namespaces

variable {members front back : List (Option Text × Json)} {fields fields' : Fields} {value : Json}
  {names : List Text}

/-! ## The members of an object -/

/-- The values under a name, in the order written. -/
def valuesUnder (name : Option Text) (members : List (Option Text × Json)) : List Json :=
  (members.filter fun member => member.1 = name).map Prod.snd

@[simp]
theorem valuesUnder_nil (name : Option Text) : valuesUnder name [] = [] :=
  rfl

@[simp]
theorem valuesUnder_cons (name : Option Text) (member : Option Text × Json) :
    valuesUnder name (member :: members)
      = if member.1 = name then member.2 :: valuesUnder name members else valuesUnder name members := by
  by_cases h : member.1 = name <;> simp [valuesUnder, h]

@[simp]
theorem valuesUnder_append (name : Option Text) :
    valuesUnder name (front ++ back) = valuesUnder name front ++ valuesUnder name back := by
  simp [valuesUnder]

/-- A member under the name gives its value in its place. -/
theorem valuesUnder_append_cons_self (name : Option Text) :
    valuesUnder name (front ++ (name, value) :: back)
      = valuesUnder name front ++ value :: valuesUnder name back := by
  rw [valuesUnder_append, valuesUnder_cons, if_pos rfl]

/-- A member under another name gives no value. -/
theorem valuesUnder_append_cons_of_ne {name key : Option Text} (h : key ≠ name) :
    valuesUnder name (front ++ (key, value) :: back) = valuesUnder name (front ++ back) := by
  rw [valuesUnder_append, valuesUnder_cons, if_neg h, valuesUnder_append]

/-- The values under a name are those of its members. -/
theorem mem_valuesUnder {name : Option Text} : value ∈ valuesUnder name members ↔ (name, value) ∈ members := by
  simp [valuesUnder]

/-! ## The fields of an entry -/

section

variable {α : Type} {read? : Json → Option α}

/-- The values of a field that may be missing but may not be given twice, and what they say. -/
inductive Given (read? : Json → Option α) : List Json → Option α → Prop where
  | missing : Given read? [] none
  | once {value : Json} {a : α} (h : read? value = some a) : Given read? [value] (some a)

/-- A field is missing exactly if it has no values. -/
theorem given_none_iff {values : List Json} : Given read? values none ↔ values = [] := by
  constructor
  · rintro ⟨⟩
    rfl
  · rintro rfl
    exact .missing

/-- A field with a value has no other value, and says what the value says. -/
theorem given_append_cons_iff {front back : List Json} {given : Option α} :
    Given read? (front ++ value :: back) given ↔
      front = [] ∧ back = [] ∧ ∃ a, read? value = some a ∧ given = some a := by
  constructor
  · generalize hvalues : front ++ value :: back = values
    rintro (_ | h)
    · simp at hvalues
    · obtain ⟨rfl, rfl, rfl⟩ : front = [] ∧ value = _ ∧ back = [] := by
        simpa [List.append_eq_cons_iff] using hvalues
      exact ⟨rfl, rfl, _, h, rfl⟩
  · rintro ⟨rfl, rfl, a, h, rfl⟩
    exact .once h

/-- A field with a value is in order exactly if it has no other value and this one can be read. -/
theorem exists_given_append_cons_iff {front back : List Json} :
    (∃ given, Given read? (front ++ value :: back) given) ↔ front = [] ∧ back = [] ∧ (read? value).isSome := by
  simp only [given_append_cons_iff, Option.isSome_iff_exists]
  constructor
  · rintro ⟨_, hfront, hback, a, h, -⟩
    exact ⟨hfront, hback, a, h⟩
  · rintro ⟨hfront, hback, a, h⟩
    exact ⟨_, hfront, hback, a, h, rfl⟩

end

/-- The names of the fields that are known. -/
def knownNames : List Text :=
  ["id".toList, "name".toList, "aliases".toList]

/-- A name that is not known is none of those that are. -/
theorem ne_some_of_unknown {name key : Text} (hkey : key ∉ knownNames) (hname : name ∈ knownNames) :
    some key ≠ some name :=
  fun h => hkey (Option.some.inj h ▸ hname)

/-- What the members of an object say. Every member has a name, and those under a name that is not known may
be anything. -/
structure Fields.SaidBy (fields : Fields) (members : List (Option Text × Json)) : Prop where
  named : ∀ member ∈ members, member.1.isSome
  id : Given idOf? (valuesUnder (some "id".toList) members) fields.id
  name : Given nameOf? (valuesUnder (some "name".toList) members) fields.name
  aliases : Given aliasesOf? (valuesUnder (some "aliases".toList) members) fields.aliases

/-- How one more member is taken in. -/
inductive Fields.Takes (fields : Fields) : Option Text × Json → Fields → Prop where
  | id {value : Json} {id : Int} (hread : idOf? value = some id) (hnew : fields.id = none) :
      fields.Takes (some "id".toList, value) { fields with id := some id }
  | name {value : Json} {text : Text} (hread : nameOf? value = some text) (hnew : fields.name = none) :
      fields.Takes (some "name".toList, value) { fields with name := some text }
  | aliases {value : Json} {names : List Text} (hread : aliasesOf? value = some names)
      (hnew : fields.aliases = none) :
      fields.Takes (some "aliases".toList, value) { fields with aliases := some names }
  | unknown {name : Text} {value : Json} (hname : name ∉ knownNames) : fields.Takes (some name, value) fields

/-- A field is put in if it can be read and is new. -/
theorem bind_ite_isSome_eq_some_iff {α : Type} {read given : Option α} {put : α → Fields} :
    (read.bind fun a => if given.isSome then none else some (put a)) = some fields' ↔
      ∃ a, read = some a ∧ given = none ∧ put a = fields' := by
  cases read <;> cases given <;> simp

/-- What one more member changes is as described. -/
theorem Fields.add?_eq_some_iff {member : Option Text × Json} :
    fields.add? member = some fields' ↔ fields.Takes member fields' := by
  constructor
  · intro h
    -- a member without a name is refused
    obtain ⟨_ | name, value⟩ := member
    · cases h
    rw [Fields.add?, Option.bind_eq_bind, Option.bind_some] at h
    split at h
    · next hname =>
      obtain ⟨id, hread, hnew, rfl⟩ := bind_ite_isSome_eq_some_iff.mp h
      exact hname ▸ .id hread hnew
    split at h
    · next hname =>
      obtain ⟨text, hread, hnew, rfl⟩ := bind_ite_isSome_eq_some_iff.mp h
      exact hname ▸ .name hread hnew
    split at h
    · next hname =>
      obtain ⟨names, hread, hnew, rfl⟩ := bind_ite_isSome_eq_some_iff.mp h
      exact hname ▸ .aliases hread hnew
    · next hid hname haliases =>
      obtain rfl := Option.some.inj h
      refine .unknown fun hmem => ?_
      simp only [knownNames, List.mem_cons, List.not_mem_nil, or_false] at hmem
      exact hmem.elim hid (Or.rec hname haliases)
  · intro h
    cases h with
    | unknown hname =>
      simp only [knownNames, List.mem_cons, List.not_mem_nil, or_false, not_or] at hname
      simp only [Fields.add?, Option.bind_eq_bind, Option.bind_some, hname, if_false]
    -- the three known fields differ in their name only
    | _ hread hnew =>
      simp only [Fields.add?, Option.bind_eq_bind, Option.bind_some, String.toList_inj, String.reduceEq, if_true,
        if_false]
      exact bind_ite_isSome_eq_some_iff.mpr ⟨_, hread, hnew, rfl⟩

/-- One more member says what taking it in adds. -/
theorem Fields.saidBy_concat {member : Option Text × Json} :
    fields'.SaidBy (members ++ [member]) ↔
      ∃ fields : Fields, fields.SaidBy members ∧ fields.Takes member fields' := by
  constructor
  · obtain ⟨key, value⟩ := member
    obtain ⟨id, text, names⟩ := fields'
    rintro ⟨hnamed, hid, hname, haliases⟩
    have hfront : ∀ member ∈ members, member.1.isSome := fun member hmem =>
      hnamed member (List.mem_append_left _ hmem)
    obtain ⟨key, rfl⟩ := Option.isSome_iff_exists.mp (hnamed _ List.mem_concat_self)
    by_cases hkey : key ∈ knownNames
    · simp only [knownNames, List.mem_cons, List.not_mem_nil, or_false] at hkey
      obtain rfl | rfl | rfl := hkey
      -- the value is the only one under its name, so the field was empty before
      all_goals
        simp (disch := decide) only [valuesUnder_append_cons_self, valuesUnder_append_cons_of_ne,
          List.append_nil, given_append_cons_iff] at hid hname haliases
      · obtain ⟨hnone, -, id, hread, rfl⟩ := hid
        exact ⟨⟨none, text, names⟩, ⟨hfront, hnone ▸ .missing, hname, haliases⟩, .id hread rfl⟩
      · obtain ⟨hnone, -, text, hread, rfl⟩ := hname
        exact ⟨⟨id, none, names⟩, ⟨hfront, hid, hnone ▸ .missing, haliases⟩, .name hread rfl⟩
      · obtain ⟨hnone, -, names, hread, rfl⟩ := haliases
        exact ⟨⟨id, text, none⟩, ⟨hfront, hid, hname, hnone ▸ .missing⟩, .aliases hread rfl⟩
    · rw [valuesUnder_append_cons_of_ne (ne_some_of_unknown hkey (by decide)), List.append_nil]
        at hid hname haliases
      exact ⟨⟨id, text, names⟩, ⟨hfront, hid, hname, haliases⟩, .unknown hkey⟩
  · rintro ⟨fields, ⟨hnamed, hid, hname, haliases⟩, htakes⟩
    have hnamed' : ∀ member' ∈ members ++ [member], member'.1.isSome := by
      refine List.forall_mem_append.mpr ⟨hnamed, List.forall_mem_singleton.mpr ?_⟩
      cases htakes <;> rfl
    cases htakes with
    | id hread hnew =>
      rw [hnew, given_none_iff] at hid
      refine ⟨hnamed', ?_, ?_, ?_⟩ <;> simp (disch := decide) only [valuesUnder_append_cons_self,
        valuesUnder_append_cons_of_ne, List.append_nil]
      · exact given_append_cons_iff.mpr ⟨hid, rfl, _, hread, rfl⟩
      · exact hname
      · exact haliases
    | name hread hnew =>
      rw [hnew, given_none_iff] at hname
      refine ⟨hnamed', ?_, ?_, ?_⟩ <;> simp (disch := decide) only [valuesUnder_append_cons_self,
        valuesUnder_append_cons_of_ne, List.append_nil]
      · exact hid
      · exact given_append_cons_iff.mpr ⟨hname, rfl, _, hread, rfl⟩
      · exact haliases
    | aliases hread hnew =>
      rw [hnew, given_none_iff] at haliases
      refine ⟨hnamed', ?_, ?_, ?_⟩ <;> simp (disch := decide) only [valuesUnder_append_cons_self,
        valuesUnder_append_cons_of_ne, List.append_nil]
      · exact hid
      · exact hname
      · exact given_append_cons_iff.mpr ⟨haliases, rfl, _, hread, rfl⟩
    | unknown hkey =>
      refine ⟨hnamed', ?_, ?_, ?_⟩ <;>
        rw [valuesUnder_append_cons_of_ne (ne_some_of_unknown hkey (by decide)), List.append_nil]
      · exact hid
      · exact hname
      · exact haliases

/-- Reading the members one by one gives what they say together. -/
theorem Fields.foldlM_add?_eq_some_iff :
    members.foldlM Fields.add? ⟨none, none, none⟩ = some fields ↔ fields.SaidBy members := by
  induction members using List.reverseRecOn generalizing fields with
  | nil =>
    rw [List.foldlM_nil]
    constructor
    · rintro ⟨⟩
      exact ⟨nofun, .missing, .missing, .missing⟩
    · obtain ⟨id, text, names⟩ := fields
      rintro ⟨-, hid, hname, haliases⟩
      cases hid
      cases hname
      cases haliases
      rfl
  | append_singleton members member ih =>
    rw [List.foldlM_append, Option.bind_eq_bind, Option.bind_eq_some_iff, Fields.saidBy_concat]
    refine exists_congr fun fields => and_congr ih ?_
    simp only [List.foldlM_cons, List.foldlM_nil, bind_pure]
    exact Fields.add?_eq_some_iff

/-! ## Entries -/

/-- The entry that a value describes. The number is 0 and there are no other spellings unless they are given. -/
inductive Describes : Json → Entry → Prop where
  | object {members : List (Option Text × Json)} {fields : Fields} {name : Text} (h : fields.SaidBy members)
      (hname : fields.name = some name) :
      Describes (.object members) ⟨fields.id.getD 0, name, fields.aliases.getD []⟩
  | pair {number text : Json} {id : Int} {name : Text} (hid : idOf? number = some id)
      (hname : nameOf? text = some name) : Describes (.array [number, text]) ⟨id, name, []⟩
  | triple {number text spellings : Json} {id : Int} {name : Text} {aliases : List Text}
      (hid : idOf? number = some id) (hname : nameOf? text = some name)
      (haliases : aliasesOf? spellings = some aliases) :
      Describes (.array [number, text, spellings]) ⟨id, name, aliases⟩

/-- The entry that is read from a value is the one that it describes. -/
theorem entryOf?_eq_some_iff {entry : Entry} : entryOf? value = some entry ↔ Describes value entry := by
  constructor
  · intro h
    -- the three forms of an entry, in the order in which they are tried
    unfold entryOf? at h
    split at h
    · next members =>
      obtain ⟨fields, hfields, h⟩ := Option.bind_eq_some_iff.mp h
      obtain ⟨name, hname, h⟩ := Option.bind_eq_some_iff.mp h
      obtain rfl := Option.some.inj h
      exact .object (Fields.foldlM_add?_eq_some_iff.mp hfields) hname
    · next number text =>
      obtain ⟨id, hid, h⟩ := Option.bind_eq_some_iff.mp h
      obtain ⟨name, hname, h⟩ := Option.bind_eq_some_iff.mp h
      obtain rfl := Option.some.inj h
      exact .pair hid hname
    · next number text spellings =>
      obtain ⟨id, hid, h⟩ := Option.bind_eq_some_iff.mp h
      obtain ⟨name, hname, h⟩ := Option.bind_eq_some_iff.mp h
      obtain ⟨aliases, haliases, h⟩ := Option.bind_eq_some_iff.mp h
      obtain rfl := Option.some.inj h
      exact .triple hid hname haliases
    · cases h
  · intro h
    cases h with
    | object h hname => simp [entryOf?, Fields.foldlM_add?_eq_some_iff.mpr h, hname]
    | pair hid hname => simp [entryOf?, hid, hname]
    | triple hid hname haliases => simp [entryOf?, hid, hname, haliases]

/-- The names that a value spells, if it describes an entry. -/
def Spells (value : Json) (names : List Text) : Prop :=
  ∃ entry, Describes value entry ∧ entry.names = names

/-- An object spells what stands under its names. Its number need only be sound. -/
theorem spells_object_iff :
    Spells (.object members) names ↔
      (∀ member ∈ members, member.1.isSome) ∧
      (∃ id, Given idOf? (valuesUnder (some "id".toList) members) id) ∧
      ∃ name aliases, Given nameOf? (valuesUnder (some "name".toList) members) (some name) ∧
        Given aliasesOf? (valuesUnder (some "aliases".toList) members) aliases ∧
        name :: aliases.getD [] = names := by
  constructor
  · rintro ⟨_, ⟨h, hname⟩, rfl⟩
    exact ⟨h.named, ⟨_, h.id⟩, _, _, hname ▸ h.name, h.aliases, rfl⟩
  · rintro ⟨hnamed, ⟨id, hid⟩, name, aliases, hname, haliases, rfl⟩
    have h : Fields.SaidBy ⟨id, some name, aliases⟩ members := ⟨hnamed, hid, hname, haliases⟩
    exact ⟨_, .object h rfl, rfl⟩

/-! ## Changes that leave the names -/

/-- A change of an entry that leaves its names. -/
inductive EntryEdit : Json → Json → Prop where
  /-- A number is changed. -/
  | number {front back : List (Option Text × Json)} {number number' : Json} (h : (idOf? number).isSome)
      (h' : (idOf? number').isSome) :
      EntryEdit (.object (front ++ (some "id".toList, number) :: back))
        (.object (front ++ (some "id".toList, number') :: back))
  /-- A number is given where there was none. -/
  | newNumber {front back : List (Option Text × Json)} {number : Json} (h : (idOf? number).isSome)
      (hnew : valuesUnder (some "id".toList) (front ++ back) = []) :
      EntryEdit (.object (front ++ back)) (.object (front ++ (some "id".toList, number) :: back))
  /-- A member is added that is not known. Its value may be anything. -/
  | unknown {front back : List (Option Text × Json)} {name : Text} {value : Json} (hname : name ∉ knownNames) :
      EntryEdit (.object (front ++ back)) (.object (front ++ (some name, value) :: back))
  /-- The number is changed that stands first in a list. -/
  | first {number number' : Json} {rest : List Json} (h : (idOf? number).isSome) (h' : (idOf? number').isSome) :
      EntryEdit (.array (number :: rest)) (.array (number' :: rest))

/-- A member with a name changes nothing in whether all have names. -/
theorem named_append_cons_iff {name : Text} :
    (∀ member ∈ front ++ (some name, value) :: back, member.1.isSome) ↔
      ∀ member ∈ front ++ back, member.1.isSome := by
  simp only [List.forall_mem_append, List.forall_mem_cons, Option.isSome_some, true_and]

/-- No change matters to an object that keeps the values under its names and whether its number is sound. -/
theorem spells_object_congr {members' : List (Option Text × Json)}
    (hnamed : (∀ member ∈ members, member.1.isSome) ↔ ∀ member ∈ members', member.1.isSome)
    (hid : (∃ id, Given idOf? (valuesUnder (some "id".toList) members) id) ↔
      ∃ id, Given idOf? (valuesUnder (some "id".toList) members') id)
    (hname : valuesUnder (some "name".toList) members = valuesUnder (some "name".toList) members')
    (haliases : valuesUnder (some "aliases".toList) members = valuesUnder (some "aliases".toList) members') :
    Spells (.object members) names ↔ Spells (.object members') names := by
  rw [spells_object_iff, spells_object_iff, hnamed, hid, hname, haliases]

/-- The number of an entry in a list does not matter, as long as it can be read. -/
theorem Spells.of_first {number number' : Json} {rest : List Json} (h' : (idOf? number').isSome)
    (h : Spells (.array (number :: rest)) names) : Spells (.array (number' :: rest)) names := by
  obtain ⟨id', hid'⟩ := Option.isSome_iff_exists.mp h'
  obtain ⟨_, _ | ⟨hid, hname⟩ | ⟨hid, hname, haliases⟩, rfl⟩ := h
  · exact ⟨_, .pair hid' hname, rfl⟩
  · exact ⟨_, .triple hid' hname haliases, rfl⟩

/-- Such a change leaves the names, and whether there is an entry at all. -/
theorem EntryEdit.spells_iff {value' : Json} (h : EntryEdit value value') :
    Spells value names ↔ Spells value' names := by
  cases h with
  | number h h' =>
    apply spells_object_congr
    · rw [named_append_cons_iff, named_append_cons_iff]
    · simp only [valuesUnder_append_cons_self, exists_given_append_cons_iff, h, h']
    · simp (disch := decide) only [valuesUnder_append_cons_of_ne]
    · simp (disch := decide) only [valuesUnder_append_cons_of_ne]
  | newNumber h hnew =>
    have hnone := List.append_eq_nil_iff.mp (valuesUnder_append _ ▸ hnew)
    apply spells_object_congr
    · rw [named_append_cons_iff]
    · rw [hnew, valuesUnder_append_cons_self, exists_given_append_cons_iff]
      exact iff_of_true ⟨_, .missing⟩ ⟨hnone.1, hnone.2, h⟩
    · rw [valuesUnder_append_cons_of_ne (by decide)]
    · rw [valuesUnder_append_cons_of_ne (by decide)]
  | unknown hkey =>
    apply spells_object_congr
    · rw [named_append_cons_iff]
    · rw [valuesUnder_append_cons_of_ne (ne_some_of_unknown hkey (by decide))]
    · rw [valuesUnder_append_cons_of_ne (ne_some_of_unknown hkey (by decide))]
    · rw [valuesUnder_append_cons_of_ne (ne_some_of_unknown hkey (by decide))]
  | first h h' => exact ⟨.of_first h', .of_first h⟩

end WikiText.Namespaces
