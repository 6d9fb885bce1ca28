import WikiText.Text.Reading

/-!
# Namespaces

A wiki names the namespaces of its files and of its categories in its own language, and keeps other
spellings besides. The canonical names are always among them. Names are trimmed, not empty, and
listed once, in the order in which they were first given.
-/

namespace WikiText

/-- The names of the two namespaces that decide how a link is shown. -/
structure Namespaces where
  /-- The names of the namespace of files and images. -/
  files : List Text
  /-- The names of the namespace of categories. -/
  categories : List Text
  deriving DecidableEq, Repr

namespace Namespaces

/-- The canonical names, which every wiki understands. -/
def canonical : Namespaces where
  files := ["File".toList, "Image".toList]
  categories := ["Category".toList]

/-- A list of names with one more, trimmed, unless it is empty or in the list already. -/
def addName (names : List Text) (name : Text) : List Text :=
  let name := name.trim
  if name.isEmpty || names.contains name then names else names ++ [name]

/-- The namespaces of a wiki with its own names for files and categories. -/
def ofNames (files categories : List Text) : Namespaces where
  files := files.foldl addName canonical.files
  categories := categories.foldl addName canonical.categories

/-- A namespace as a wiki describes it: its name and its other spellings. -/
structure Entry where
  /-- The number of the namespace. -/
  id : Int
  /-- The name that the wiki shows. -/
  name : Text
  /-- Other spellings. -/
  aliases : List Text
  deriving DecidableEq, Repr

/-- All names of an entry, the one shown first. -/
def Entry.names (entry : Entry) : List Text :=
  entry.name :: entry.aliases

/-- The namespaces of a wiki from its entries for files and categories. -/
def ofEntries (file category : Entry) : Namespaces :=
  ofNames file.names category.names

/-- Reads the name of a namespace, in capital or small letters, and the colon after it. -/
def qualifier (name : Text) : Scanner Char Unit := do
  Scanner.blanks
  Scanner.matching Unicode.sameLetter name
  Scanner.blanks
  Scanner.one ':'

/-- Whether a link target names a file. -/
def isFile (namespaces : Namespaces) (target : Text) : Bool :=
  namespaces.files.any fun name => ((qualifier name).run target).isSome

/-- Whether the content of a link puts its page in a category. -/
def isCategory (namespaces : Namespaces) (content : Text) : Bool :=
  namespaces.categories.any fun name =>
    ((qualifier name).run content).any fun (_, category) =>
      !category.isEmpty && !category.contains ']'

end Namespaces

end WikiText
