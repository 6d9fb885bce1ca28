import WikiText.Text.Basic

/-!
# Emphasis

Runs of apostrophes switch emphasis on and off: two switch italic, three bold, five both. What a run
means depends on what is open and on the runs that follow on its line:

* a run of three or four inside italic text is bold only if a later run could end the bold, and
  otherwise ends the italic;
* of any run, the part that switches nothing is text.

Emphasis ends with its line, so each line is read by itself.
-/

namespace WikiText.Emphasis

/-- The emphasis that is open at a place of a line. -/
inductive State where
  /-- No emphasis. -/
  | upright
  /-- Italic type. -/
  | italic
  /-- Bold type. -/
  | bold
  /-- Bold italic type. -/
  | both
  deriving DecidableEq, Repr

/-- What a run of two or more apostrophes does: the emphasis after it, and how many of its
apostrophes are markers. `boldFollows` says whether a later run of the line is long enough to switch
bold. -/
def State.advance (state : State) (length : Nat) (boldFollows : Bool) : State × Nat :=
  if 5 ≤ length then
    match state with
    | upright => (both, 5)
    | italic => (bold, 5)
    | bold => (italic, 5)
    | both => (upright, 5)
  else if 3 ≤ length then
    match state with
    | upright => (bold, 3)
    | italic => if boldFollows then (both, 3) else (upright, 2)
    | bold => (upright, 3)
    | both => (italic, 3)
  else
    match state with
    | upright => (italic, 2)
    | italic => (upright, 2)
    | bold => (both, 2)
    | both => (bold, 2)

/-- A line cut into its runs of apostrophes and the characters between them. -/
inductive Part where
  /-- A character other than an apostrophe. -/
  | char (c : Char)
  /-- A longest run of apostrophes, by its length. -/
  | run (length : Nat)
  deriving DecidableEq, Repr

/-- Cuts a line at its runs of apostrophes. -/
def parts : Text → List Part
  | [] => []
  | c :: rest =>
    if c = '\x27' then
      match parts rest with
      | .run length :: others => .run (length + 1) :: others
      | others => .run 1 :: others
    else .char c :: parts rest

/-- Whether a part is a run that can switch bold. -/
def Part.switchesBold : Part → Bool
  | .char _ => false
  | .run length => 3 ≤ length

/-- The text of a line without the markers, from a place where `state` is open. -/
def strip (state : State) : List Part → Text
  | [] => []
  | .char c :: rest => c :: strip state rest
  | .run length :: rest =>
    if length < 2 then List.replicate length '\x27' ++ strip state rest
    else
      let (next, markers) := state.advance length (rest.any Part.switchesBold)
      List.replicate (length - markers) '\x27' ++ strip next rest

/-- The text of a line without the markers of emphasis. -/
def stripLine (line : Text) : Text :=
  strip .upright (parts line)

/-- A text without the markers of emphasis, line by line. -/
def stripAll (text : Text) : Text :=
  ['\n'].intercalate ((Text.split (· == '\n') text).map stripLine)

end WikiText.Emphasis
