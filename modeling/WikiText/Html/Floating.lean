import WikiText.Html.Tag

/-!
# Floating boxes

A `div` element that floats beside the text is not part of it. It is removed with everything inside
it, other `div` elements included; a floating `div` that is never closed stays in the text.
-/

namespace WikiText.Html

open Scanner

/-- A tag of a `div` element, as it is written. -/
inductive DivTag where
  /-- An opening tag. -/
  | opening (source : Text)
  /-- A closing tag. -/
  | closing (source : Text)
  deriving DecidableEq, Repr

/-- The text of a tag. -/
def DivTag.source : DivTag → Text
  | .opening source => source
  | .closing source => source

/-- The tags of `div` elements. -/
def divTag : Pattern DivTag where
  opening := '<'
  body := do
    let (tag, source) ← withSource <|
      (do openTag "div"; return DivTag.opening) <|>
      (do one '/'; caseless "div"; blanks; one '>'; return DivTag.closing)
    return tag ('<' :: source)

/-- A class list that names the class of boxes at the right margin. -/
def floatingClass : Scanner Char Unit := do
  caseless "class"
  exactly "=\""
  seek false (· ≠ '"') do
    caseless "floatright"
    wordEnd

/-- A style that lets the box float. -/
def floatingStyle : Scanner Char Unit := do
  caseless "style"
  exactly "=\""
  seek false (· ≠ '"') (caseless "float:")

/-- Whether an opening tag makes its element float. -/
def isFloating (tag : Text) : Bool :=
  ((seek false (fun _ => true) (floatingClass <|> floatingStyle)).run tag).isSome

/-- What follows the tag that closes the outermost of `depth + 1` open elements, if it is closed. -/
def afterClose (depth : Nat) : List (Piece DivTag) → Option (List (Piece DivTag))
  | [] => none
  | .plain _ :: rest => afterClose depth rest
  | .found (.opening _) :: rest => afterClose (depth + 1) rest
  | .found (.closing _) :: rest =>
    match depth with
    | 0 => some rest
    | outer + 1 => afterClose outer rest

theorem afterClose_suffix {depth : Nat} {pieces rest : List (Piece DivTag)}
    (h : afterClose depth pieces = some rest) : rest <:+ pieces := by
  fun_induction afterClose depth pieces with
  | case1 => cases h
  | case2 _ _ _ ih => exact (ih h).trans (List.suffix_cons _ _)
  | case3 _ _ _ ih => exact (ih h).trans (List.suffix_cons _ _)
  | case4 =>
    cases h
    exact List.suffix_cons _ _
  | case5 _ _ _ ih => exact (ih h).trans (List.suffix_cons _ _)

/-- The text of a list of pieces without the floating elements that are closed. -/
def pruneFloating : List (Piece DivTag) → Text
  | [] => []
  | .plain c :: rest => c :: pruneFloating rest
  | .found tag :: rest =>
    match tag with
    | .closing source => source ++ pruneFloating rest
    | .opening source =>
      if isFloating source then
        match _h : afterClose 0 rest with
        | some after => pruneFloating after
        -- never closed: the tag is text, and boxes after it may still go
        | none => source ++ pruneFloating rest
      else source ++ pruneFloating rest
termination_by pieces => pieces.length
decreasing_by
  all_goals try exact Nat.lt_succ_self _
  exact Nat.lt_succ_of_le (afterClose_suffix _h).length_le

/-- Removes the floating boxes of a text. -/
def removeFloating (text : Text) : Text :=
  pruneFloating (divTag.pieces text)

end WikiText.Html
