import WikiText.Failure
import WikiText.Json
import WikiText.Namespaces.Basic

/-!
# Namespaces from JSON

A wiki lists its namespaces as an object of entries under their canonical names. An entry is an object
with a name and perhaps a number and other spellings, or a list of these three in the order number,
name, spellings. Every entry has to be sound, whether it is needed or not; then the last entry under
each of the two names that are needed counts.
-/

namespace WikiText.Namespaces

/-- The number that a literal writes, if it has neither fraction nor exponent and fits into 32 bits.
Zero has no sign. -/
def idOfLiteral? (literal : List Char) : Option Int :=
  let (negative, digits) := match literal with
    | '-' :: digits => (true, digits)
    | digits => (false, digits)
  if digits.all Char.isDigit then
    let size := digits.foldl (fun n c => n * 10 + (c.toNat - '0'.toNat)) 0
    if negative then if 0 < size && size ≤ 0x80000000 then some (-size) else none
    else if size < 0x80000000 then some size else none
  else none

/-- The number of an entry. -/
def idOf? : Json → Option Int
  | .number literal => idOfLiteral? literal
  | _ => none

/-- A name. -/
def nameOf? : Json → Option Text
  | .string text => text
  | _ => none

/-- A list of names. -/
def aliasesOf? : Json → Option (List Text)
  | .array items => items.mapM nameOf?
  | _ => none

/-- What has been read of the fields of an entry. -/
structure Fields where
  /-- The number. -/
  id : Option Int
  /-- The name. -/
  name : Option Text
  /-- Other spellings. -/
  aliases : Option (List Text)

/-- The fields with one more member of the entry. A field may be given once, and other members may be
anything. -/
def Fields.add? (fields : Fields) (member : Option Text × Json) : Option Fields := do
  let name ← member.1
  if name = "id".toList then
    let id ← idOf? member.2
    if fields.id.isSome then none else some { fields with id := some id }
  else if name = "name".toList then
    let text ← nameOf? member.2
    if fields.name.isSome then none else some { fields with name := some text }
  else if name = "aliases".toList then
    let names ← aliasesOf? member.2
    if fields.aliases.isSome then none else some { fields with aliases := some names }
  else
    some fields

/-- An entry. The number is 0 and there are no other spellings unless they are given. -/
def entryOf? : Json → Option Entry
  | .object members => do
    let fields ← members.foldlM Fields.add? ⟨none, none, none⟩
    let name ← fields.name
    return ⟨fields.id.getD 0, name, fields.aliases.getD []⟩
  | .array [id, name] => do
    return ⟨← idOf? id, ← nameOf? name, []⟩
  | .array [id, name, aliases] => do
    return ⟨← idOf? id, ← nameOf? name, ← aliasesOf? aliases⟩
  | _ => none

/-- The entries of a document, in the order written. -/
def entriesOf? : Json → Option (List (Text × Entry))
  | .object members => members.mapM fun (name, value) => do
    return (← name, ← entryOf? value)
  | _ => none

/-- The last entry under a name. -/
def entryUnder? (entries : List (Text × Entry)) (name : String) : Option Entry :=
  entries.reverse.lookup name.toList

/-- The namespaces that a document describes. -/
def ofJson (document : Text) : Except Failure Namespaces := do
  let entries ← ((Json.parse? document).bind entriesOf?).elim
    (.error (.invalidConfig "malformed namespace data")) .ok
  let file ← (entryUnder? entries "File").elim (.error (.missingNamespace "File")) .ok
  let category ← (entryUnder? entries "Category").elim (.error (.missingNamespace "Category")) .ok
  return ofEntries file category

end WikiText.Namespaces
