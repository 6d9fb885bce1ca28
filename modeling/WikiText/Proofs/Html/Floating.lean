import Mathlib.Logic.Function.Iterate
import WikiText.Html.Floating
import WikiText.Proofs.Html.Tag
import WikiText.Proofs.Text.Pattern

/-!
# Floating boxes as subtrees

A forest of `div` elements is written down tag by tag (`Forest.source`), and what is written is cut into
just these tags and the characters between them (`pieces_source`). A search for the tag that closes an
element passes over every forest, for a forest closes what it opens (`afterClose_pieces`). So the boxes
that go are the floating elements with everything inside them (`pruneFloating_pieces`).

The search counts how many elements are open (`Search.step`). It stops where the count reaches zero, which
is where the element is closed, and so never counts below zero.
-/

namespace WikiText.Html

open Scanner
open Unicode (isWhiteSpace isWordChar sameLetter)

/-! ## Tags -/

/-- An opening tag of a `div` element. -/
structure OpenTag where
  /-- The name, in capital or small letters. -/
  name : Text
  /-- What stands between the name and the end of the tag. -/
  attributes : Text
  name_eq : List.Forall₂ (sameLetter · · = true) "div".toList name
  /-- No word goes on behind the name. -/
  apart : ∀ c ∈ attributes.head?, isWordChar c = false
  unended : '>' ∉ attributes

/-- The text of an opening tag. -/
def OpenTag.source (tag : OpenTag) : Text :=
  '<' :: (tag.name ++ (tag.attributes ++ ['>']))

/-- A closing tag of a `div` element. -/
structure CloseTag where
  /-- The name, in capital or small letters. -/
  name : Text
  /-- The white space between the name and the end of the tag. -/
  blank : Text
  name_eq : List.Forall₂ (sameLetter · · = true) "div".toList name
  isWhiteSpace_of_mem : ∀ c ∈ blank, isWhiteSpace c = true

/-- The text of a closing tag. -/
def CloseTag.source (tag : CloseTag) : Text :=
  '<' :: '/' :: (tag.name ++ (tag.blank ++ ['>']))

/-- The name of a tag is read in capital or small letters. -/
theorem run_name {name : Text} (h : List.Forall₂ (sameLetter · · = true) "div".toList name)
    (rest : Text) : (caseless "div").run (name ++ rest) = some ((), rest) :=
  run_matching_eq_some.mpr ⟨name, h, rfl⟩

/-- Such a tag is read as an opening tag of the element. -/
theorem OpenTag.run_openTag (tag : OpenTag) (rest : Text) :
    (openTag "div").run (tag.name ++ (tag.attributes ++ '>' :: rest)) = some ((), rest) := by
  have hword : tag.attributes.head?.any isWordChar = false := by
    cases hhead : tag.attributes.head? with
    | none => rfl
    | some c => exact tag.apart c hhead
  exact run_openTag_eq_some.mpr ⟨tag.name, tag.attributes, tag.name_eq, hword, tag.unended, rfl⟩

/-- Reads a tag after its `<` and tells the two kinds of tags apart. -/
def tagKind : Scanner Char (Text → DivTag) :=
  (do openTag "div"; return DivTag.opening) <|>
  (do one '/'; caseless "div"; blanks; one '>'; return DivTag.closing)

/-- The kind of an opening tag is read behind its angle bracket. -/
theorem OpenTag.run_tagKind (tag : OpenTag) (rest : Text) :
    tagKind.run (tag.name ++ (tag.attributes ++ '>' :: rest)) = some (.opening, rest) := by
  rw [tagKind, run_orElse, run_bind_of_eq_some (tag.run_openTag rest)]
  rfl

/-- The kind of a closing tag is read behind its angle bracket. -/
theorem CloseTag.run_tagKind (tag : CloseTag) (rest : Text) :
    tagKind.run ('/' :: (tag.name ++ (tag.blank ++ '>' :: rest))) = some (.closing, rest) := by
  have hopening : (openTag "div").run ('/' :: (tag.name ++ (tag.blank ++ '>' :: rest))) = none := rfl
  have hblank : blanks.run (tag.blank ++ '>' :: rest) = some ((), '>' :: rest) := by
    refine run_skipWhile_append tag.isWhiteSpace_of_mem ?_
    rintro c ⟨⟩
    rfl
  rw [tagKind, run_orElse, run_bind, hopening, Option.bind_none, Option.none_or,
    run_bind_of_eq_some (run_one_self '/' _), run_bind_of_eq_some (run_name tag.name_eq _),
    run_bind_of_eq_some hblank, run_bind_of_eq_some (run_one_self '>' rest)]
  rfl

/-- A tag is found as it is written. -/
theorem pieces_cons_of_kind {kind : Text → DivTag} {front rest : Text}
    (h : tagKind.run (front ++ rest) = some (kind, rest)) :
    divTag.pieces ('<' :: (front ++ rest)) = .found (kind ('<' :: front)) :: divTag.pieces rest := by
  have hbody : divTag.body.run (front ++ rest) = some (kind ('<' :: front), rest) :=
    run_bind_of_eq_some (run_withSource_append h)
  exact Pattern.pieces_cons_of_some hbody

/-- An opening tag is one piece, whatever comes behind it. -/
theorem OpenTag.pieces_source (tag : OpenTag) (rest : Text) :
    divTag.pieces (tag.source ++ rest) = .found (.opening tag.source) :: divTag.pieces rest := by
  apply pieces_cons_of_kind
  rw [List.append_assoc, List.append_assoc]
  exact tag.run_tagKind rest

/-- A closing tag is one piece, whatever comes behind it. -/
theorem CloseTag.pieces_source (tag : CloseTag) (rest : Text) :
    divTag.pieces (tag.source ++ rest) = .found (.closing tag.source) :: divTag.pieces rest := by
  have hread : tagKind.run ('/' :: (tag.name ++ (tag.blank ++ ['>'])) ++ rest)
      = some (.closing, rest) := by
    rw [List.cons_append, List.append_assoc, List.append_assoc]
    exact tag.run_tagKind rest
  exact pieces_cons_of_kind hread

/-! ## Forests -/

/-- A properly nested forest of `div` elements, with text between the tags. -/
inductive Forest where
  /-- The end of the forest. -/
  | done
  /-- Text without any tag. -/
  | text (content : Text) (untagged : '<' ∉ content) (rest : Forest)
  /-- An element, by its tags and what is inside it. -/
  | div (opening : OpenTag) (inside : Forest) (closing : CloseTag) (rest : Forest)

namespace Forest

/-- A forest as it is written. -/
def source : Forest → Text
  | done => []
  | text content _ rest => content ++ rest.source
  | div opening inside closing rest =>
    opening.source ++ (inside.source ++ (closing.source ++ rest.source))

/-- The tags of a forest and the characters between them. -/
def pieces : Forest → List (Piece DivTag)
  | done => []
  | text content _ rest => content.map .plain ++ rest.pieces
  | div opening inside closing rest =>
    .found (.opening opening.source) :: (inside.pieces
      ++ .found (.closing closing.source) :: rest.pieces)

/-- A forest without its outermost floating elements and all that is inside them. -/
def pruned : Forest → Forest
  | done => done
  | text content untagged rest => text content untagged rest.pruned
  | div opening inside closing rest =>
    if isFloating opening.source then rest.pruned
    else div opening inside.pruned closing rest.pruned

end Forest

/-- What is written of a forest is cut into its tags and the characters between them. -/
theorem pieces_source (forest : Forest) (rest : Text) :
    divTag.pieces (forest.source ++ rest) = forest.pieces ++ divTag.pieces rest := by
  induction forest generalizing rest with
  | done => rfl
  | text content untagged forest ih =>
    rw [Forest.source, List.append_assoc, Pattern.pieces_append_of_notMem untagged, ih,
      Forest.pieces, List.append_assoc]
  | div opening inside closing forest ihinside ihforest =>
    rw [Forest.source, List.append_assoc, opening.pieces_source, List.append_assoc, ihinside,
      List.append_assoc, closing.pieces_source, ihforest, Forest.pieces]
    simp

/-! ## The search for the closing tag -/

/-- Plain characters do not change the depth. -/
theorem afterClose_map_plain (depth : ℕ) (content : Text) (rest : List (Piece DivTag)) :
    afterClose depth (content.map .plain ++ rest) = afterClose depth rest := by
  induction content with
  | nil => rfl
  | cons c content ih => exact ih

/-- A forest closes what it opens. -/
theorem afterClose_pieces (forest : Forest) (depth : ℕ) (rest : List (Piece DivTag)) :
    afterClose depth (forest.pieces ++ rest) = afterClose depth rest := by
  induction forest generalizing depth rest with
  | done => rfl
  | text content untagged forest ih =>
    rw [Forest.pieces, List.append_assoc, afterClose_map_plain, ih]
  | div opening inside closing forest ihinside ihforest =>
    rw [Forest.pieces, List.cons_append, afterClose, List.append_assoc, ihinside, List.cons_append,
      afterClose, ihforest]

/-- A search for the tag that closes an element, as it counts. -/
structure Search where
  /-- How many elements are open. -/
  depth : ℤ
  /-- What is to be read. -/
  rest : List (Piece DivTag)
  deriving DecidableEq, Repr

namespace Search

/-- The search behind the opening tag of an element. -/
def start (pieces : List (Piece DivTag)) : Search :=
  ⟨1, pieces⟩

/-- One step of a search. Where no element is open it is over. -/
def step (search : Search) : Search :=
  if search.depth = 0 then search
  else
    match search.rest with
    | [] => search
    | .plain _ :: rest => ⟨search.depth, rest⟩
    | .found (.opening _) :: rest => ⟨search.depth + 1, rest⟩
    | .found (.closing _) :: rest => ⟨search.depth - 1, rest⟩

/-- A step does not go below depth zero. -/
theorem depth_step_nonneg {search : Search} (h : 0 ≤ search.depth) : 0 ≤ search.step.depth := by
  unfold step
  split
  · exact h
  · next hopen =>
    split
    · exact h
    · exact h
    · exact Int.add_nonneg h Int.one_nonneg
    · dsimp only
      omega

/-- No number of steps goes below depth zero. -/
theorem depth_iterate_nonneg (pieces : List (Piece DivTag)) (n : ℕ) :
    0 ≤ (step^[n] (start pieces)).depth := by
  induction n with
  | zero => exact Int.one_nonneg
  | succ n ih =>
    rw [Function.iterate_succ_apply']
    exact depth_step_nonneg ih

/-- A search that is over stays where it is. -/
theorem step_over (rest : List (Piece DivTag)) : step ⟨0, rest⟩ = ⟨0, rest⟩ :=
  rfl

variable {depth : ℕ} {rest : List (Piece DivTag)}

/-- Within an element the search is not over. -/
theorem open_ne_zero (depth : ℕ) : (depth + 1 : ℤ) ≠ 0 := by
  omega

theorem step_nil : step ⟨depth + 1, []⟩ = ⟨depth + 1, []⟩ := by
  rw [step, if_neg (open_ne_zero depth)]

/-- A plain character is passed over. -/
theorem step_plain (c : Char) : step ⟨depth + 1, .plain c :: rest⟩ = ⟨depth + 1, rest⟩ := by
  rw [step, if_neg (open_ne_zero depth)]

/-- An opening tag is one level deeper. -/
theorem step_opening (source : Text) :
    step ⟨depth + 1, .found (.opening source) :: rest⟩ = ⟨(depth + 1 : ℕ) + 1, rest⟩ := by
  rw [step, if_neg (open_ne_zero depth)]
  rfl

/-- A closing tag is one level higher. -/
theorem step_closing (source : Text) :
    step ⟨depth + 1, .found (.closing source) :: rest⟩ = ⟨depth, rest⟩ := by
  rw [step, if_neg (open_ne_zero depth)]
  exact congrArg (Search.mk · rest) (Int.add_sub_cancel _ _)

/-- The count reaches zero behind the tag that is looked for. -/
theorem exists_iterate_eq {pieces after : List (Piece DivTag)}
    (h : afterClose depth pieces = some after) :
    ∃ n, step^[n] ⟨depth + 1, pieces⟩ = ⟨0, after⟩ := by
  fun_induction afterClose depth pieces with
  | case1 => cases h
  | case2 depth c rest ih =>
    obtain ⟨n, hlast⟩ := ih h
    exact ⟨n + 1, by rw [Function.iterate_succ_apply, step_plain, hlast]⟩
  | case3 depth source rest ih =>
    obtain ⟨n, hlast⟩ := ih h
    exact ⟨n + 1, by rw [Function.iterate_succ_apply, step_opening, hlast]⟩
  | case4 source rest =>
    cases h
    exact ⟨1, step_closing source⟩
  | case5 source rest outer ih =>
    obtain ⟨n, hlast⟩ := ih h
    exact ⟨n + 1, by rw [Function.iterate_succ_apply, step_closing]; exact hlast⟩

/-- Where the count reaches zero, the element is closed. -/
theorem afterClose_of_iterate {n : ℕ} {pieces after : List (Piece DivTag)}
    (h : step^[n] ⟨depth + 1, pieces⟩ = ⟨0, after⟩) : afterClose depth pieces = some after := by
  induction n generalizing depth pieces with
  | zero =>
    have hdepth : (depth + 1 : ℤ) = 0 := congrArg Search.depth h
    omega
  | succ n ih =>
    rw [Function.iterate_succ_apply] at h
    rcases pieces with _ | ⟨c | ⟨source | source⟩, rest⟩
    · rw [step_nil] at h
      exact ih h
    · rw [step_plain] at h
      rw [afterClose, ih h]
    · rw [step_opening] at h
      rw [afterClose, ih h]
    · rw [step_closing] at h
      cases depth with
      | zero =>
        -- the search is over, and stays where it is
        rw [Int.ofNat_zero, Function.iterate_fixed (step_over rest)] at h
        exact congrArg some (congrArg Search.rest h)
      | succ outer => rw [afterClose, ih h]

end Search

/-! ## Pruning -/

/-- Plain characters in front are kept. -/
theorem pruneFloating_map_plain (content : Text) (rest : List (Piece DivTag)) :
    pruneFloating (content.map .plain ++ rest) = content ++ pruneFloating rest := by
  induction content with
  | nil => rfl
  | cons c content ih => rw [List.map_cons, List.cons_append, pruneFloating, ih, List.cons_append]

/-- A closing tag in front that belongs to no element is kept. -/
theorem pruneFloating_closing (source : Text) (rest : List (Piece DivTag)) :
    pruneFloating (.found (.closing source) :: rest) = source ++ pruneFloating rest := by
  rw [pruneFloating]

/-- A floating element that is closed goes. -/
theorem pruneFloating_of_closed {source : Text} {rest after : List (Piece DivTag)}
    (hfloating : isFloating source = true) (h : afterClose 0 rest = some after) :
    pruneFloating (.found (.opening source) :: rest) = pruneFloating after := by
  rw [pruneFloating, if_pos hfloating]
  split
  · next hsome =>
    rw [h] at hsome
    cases hsome
    rfl
  · next hnone => rw [h] at hnone; cases hnone

/-- A tag that is not floating, or is never closed, stays. -/
theorem pruneFloating_of_stays {source : Text} {rest : List (Piece DivTag)}
    (h : isFloating source = true → afterClose 0 rest = none) :
    pruneFloating (.found (.opening source) :: rest) = source ++ pruneFloating rest := by
  rw [pruneFloating]
  split
  · next hfloating =>
    split
    · next hsome => rw [h hfloating] at hsome; cases hsome
    · rfl
  · rfl

/-- What is left of a forest is the forest without its floating elements. -/
theorem pruneFloating_pieces (forest : Forest) (rest : List (Piece DivTag)) :
    pruneFloating (forest.pieces ++ rest) = forest.pruned.source ++ pruneFloating rest := by
  induction forest generalizing rest with
  | done => rfl
  | text content untagged forest ih =>
    rw [Forest.pieces, List.append_assoc, pruneFloating_map_plain, ih, Forest.pruned, Forest.source,
      List.append_assoc]
  | div opening inside closing forest ihinside ihforest =>
    rw [Forest.pieces, Forest.pruned, List.cons_append, List.append_assoc, List.cons_append]
    split
    -- a floating division goes with everything up to the tag that closes it
    · next hfloating =>
      have hclosed : afterClose 0 (inside.pieces
          ++ .found (.closing closing.source) :: (forest.pieces ++ rest))
          = some (forest.pieces ++ rest) := by
        rw [afterClose_pieces, afterClose]
      rw [pruneFloating_of_closed hfloating hclosed, ihforest]
    · next hfixed =>
      rw [pruneFloating_of_stays fun h => absurd h hfixed, ihinside, pruneFloating_closing, ihforest,
        Forest.source]
      simp

/-- **Floating boxes go as subtrees.** What is left of a forest of `div` elements is the forest without its
outermost floating elements and all that is inside them. Behind an opening tag that is never closed a
forest is pruned in the same way, and the tag stays.

A search for the tag that closes an element counts the elements that are open. Its count is never below
zero, and it reaches zero where the element is closed. -/
theorem removeFloating_forest :
    (∀ forest : Forest, removeFloating forest.source = forest.pruned.source ∧
      ∀ tag : OpenTag, removeFloating (tag.source ++ forest.source)
        = tag.source ++ forest.pruned.source) ∧
    ∀ pieces, (∀ n, 0 ≤ (Search.step^[n] (.start pieces)).depth) ∧
      ∀ after, afterClose 0 pieces = some after ↔
        ∃ n, Search.step^[n] (.start pieces) = ⟨0, after⟩ := by
  constructor
  · intro forest
    have hpieces : divTag.pieces forest.source = forest.pieces := by
      simpa [Pattern.pieces] using pieces_source forest []
    have hprune : pruneFloating forest.pieces = forest.pruned.source := by
      simpa [pruneFloating] using pruneFloating_pieces forest []
    -- the forest closes all it opens, so a tag put in front stays unclosed
    have hunclosed : afterClose 0 forest.pieces = none := by
      simpa [afterClose] using afterClose_pieces forest 0 []
    constructor
    · rw [removeFloating, hpieces, hprune]
    · intro tag
      rw [removeFloating, tag.pieces_source, hpieces, pruneFloating_of_stays fun _ => hunclosed,
        hprune]
  · intro pieces
    refine ⟨Search.depth_iterate_nonneg pieces, fun after => ⟨Search.exists_iterate_eq, ?_⟩⟩
    rintro ⟨n, hlast⟩
    exact Search.afterClose_of_iterate hlast

/-- A floating element with another one inside, in an element that stays. -/
example : ∃ forest : Forest,
    forest.source
        = "<div id=\"a\">x<DIV class=\"floatright\"><div>y</div></DIV >z</div>".toList ∧
      forest.pruned.source = "<div id=\"a\">xz</div>".toList := by
  have hname : List.Forall₂ (sameLetter · · = true) "div".toList "div".toList :=
    .cons rfl (.cons rfl (.cons rfl .nil))
  have hcapitals : List.Forall₂ (sameLetter · · = true) "div".toList "DIV".toList :=
    .cons rfl (.cons rfl (.cons rfl .nil))
  let inner : Forest :=
    .div ⟨_, [], hname, nofun, by decide⟩ (.text ['y'] (by decide) .done) ⟨_, [], hname, nofun⟩ .done
  let box (rest : Forest) : Forest :=
    .div ⟨_, " class=\"floatright\"".toList, hcapitals, by rintro c ⟨⟩; rfl, by decide⟩ inner
      ⟨_, [' '], hcapitals, List.forall_mem_singleton.mpr rfl⟩ rest
  let outer : Forest :=
    .div ⟨_, " id=\"a\"".toList, hname, by rintro c ⟨⟩; rfl, by decide⟩
      (.text ['x'] (by decide) (box (.text ['z'] (by decide) .done))) ⟨_, [], hname, nofun⟩ .done
  exact ⟨outer, rfl, rfl⟩

end WikiText.Html
