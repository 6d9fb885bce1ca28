import WikiText.Cli.Host

/-!
# Directories

A working directory as a list of files, and the system that consists of one. A path is followed from
the directory, part by part; directories inside are those that files stand in. Nothing is known of
what is outside: a path that leads there, from the root or through the directory above, leads nowhere. A file
holds a text, and once it has been created it can be written.
-/

namespace WikiText.Cli

/-- The files of a directory and of the directories in it, each by the parts of its path. -/
structure Directory where
  /-- The files, each with its content. -/
  files : List (List String × Text)
  deriving DecidableEq, Repr

namespace Directory

/-- Where a path leads. -/
inductive Place where
  /-- To a file. -/
  | file (path : List String) (content : Text)
  /-- To a directory. -/
  | folder
  /-- To nothing, in a directory that there is. -/
  | vacant (path : List String)
  /-- Nowhere. -/
  | nowhere (fault : Fault)
  deriving DecidableEq, Repr

/-- The parts of a path between its slashes. -/
def partsOf (path : String) : List String :=
  (Text.split (· == '/') path.toList).map String.ofList

/-- A directory with the given files. -/
def ofFiles (files : List (String × String)) : Directory where
  files := files.map fun (path, content) => (partsOf path, content.toList)

/-- Follows the parts of a path from a directory inside. -/
def follow (directory : Directory) (inside : List String) : List String → Place
  | [] => .folder
  | name :: rest =>
    if name = "" || name = "." then directory.follow inside rest
    else if name = ".." then
      match inside.reverse, rest with
      | _ :: outer, _ => directory.follow outer.reverse rest
      | [], [] => .folder
      | [], _ :: _ => .nowhere .notFound
    else if 255 < name.utf8ByteSize then .nowhere .nameTooLong
    else
      let path := inside ++ [name]
      match directory.files.lookup path with
      | some content => if rest.isEmpty then .file path content else .nowhere .notDirectory
      | none =>
        if directory.files.any fun file => path.isPrefixOf file.1 then directory.follow path rest
        else if rest.isEmpty then .vacant path
        else .nowhere .notFound

/-- Where a path leads from the directory. -/
def locate (directory : Directory) (path : String) : Place :=
  if 4096 ≤ path.utf8ByteSize then .nowhere .nameTooLong
  else match partsOf path with
    | [""] => .nowhere .notFound
    | "" :: rest => if rest.all (· = "") then .folder else .nowhere .notFound
    | parts => directory.follow [] parts

/-- The content of a file. -/
def read (directory : Directory) (path : String) : Except Fault Text :=
  match directory.locate path with
  | .file _ content => .ok content
  | .folder => .error .isDirectory
  | .vacant _ => .error .notFound
  | .nowhere fault => .error fault

/-- A path without the slashes at its end. Of slashes alone one is left. -/
def withoutSlash (path : String) : String :=
  let kept := String.ofList (Text.dropWhileEnd (· == '/') path.toList)
  if kept = "" && path ≠ "" then "/" else kept

/-- The directory with a text in the place of a file that is there. -/
def put (directory : Directory) (place : List String) (content : Text) : Directory where
  files := directory.files.map fun file => if file.1 = place then (place, content) else file

/-- The directory with an empty file at a path. A path that ends in a slash would be that of a directory. -/
def create (directory : Directory) (path : String) : Except Fault Directory :=
  let target := withoutSlash path
  match directory.locate target with
  | .nowhere fault => .error fault
  | .folder => .error .isDirectory
  | .file place _ => if target ≠ path then .error .isDirectory else .ok (directory.put place [])
  | .vacant place =>
    if target ≠ path then .error .isDirectory else .ok ⟨directory.files ++ [(place, [])]⟩

/-- The directory with a text in the file at a path. -/
def write (directory : Directory) (path : String) (content : Text) : Except Fault Directory :=
  match directory.locate path with
  | .file place _ => .ok (directory.put place content)
  | .folder => .error .isDirectory
  | .vacant _ => .error .notFound
  | .nowhere fault => .error fault

/-- The files that are new in a directory or changed since it was another one. -/
def changesSince (directory old : Directory) : List (String × String) :=
  (directory.files.filter (!old.files.contains ·)).map fun (path, content) =>
    ("/".intercalate path, String.ofList content)

/-- A change of the directory, which is as it was if the change fails. -/
def change (next : Directory → Except Fault Directory) : StateM Directory (Except Fault Unit) := do
  match next (← get) with
  | .ok directory =>
    set directory
    return .ok ()
  | .error fault => return .error fault

/-- The system that consists of a directory and a standard input. -/
def host (input : Except Fault Text) : Host (StateM Directory) where
  readFile path := do return (← get).read path
  readInput := pure input
  createFile path := change (·.create path)
  writeFile path content := change (·.write path content)

end Directory

end WikiText.Cli
