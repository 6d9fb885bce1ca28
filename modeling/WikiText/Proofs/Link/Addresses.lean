import WikiText.Link.External
import WikiText.Link.Margin
import WikiText.Proofs.Text.Pattern

/-!
# Addresses in links

External links and raised addresses end with a bracket or a parenthesis of their own. Text around
them that has none of the characters they are made of does not matter for what is read, so that
external links are resolved (`resolveExternal_between`) and raised addresses removed
(`removeRaised_between`) in the same way between other texts.
-/

namespace WikiText.Link

open Scanner

/-! ## External links -/

/-- Nothing is found in a plain text. -/
theorem any_plain {found : Piece Text → Bool} (h : ∀ c, found (.plain c) = false) (text : Text) :
    (text.map .plain).any found = false := by
  rw [List.any_map, List.any_eq_false]
  intro c _
  simp [h c]

/-- A text in which the pattern does not occur has no external link. -/
theorem hasExternal_of_not_occurs {text : Text} (h : external.occurs text = false) :
    hasExternal text = false := by
  rw [hasExternal, Pattern.pieces_of_not_occurs h]
  exact any_plain (fun _ => rfl) text

/-- A text in which the pattern does not occur is kept. -/
theorem resolveExternal_of_not_occurs {text : Text} (h : external.occurs text = false) :
    resolveExternal text = text := by
  rw [resolveExternal]
  cases text.count '[' with
  | zero => rfl
  | succ passes =>
    rw [resolveExternalUpTo, hasExternal_of_not_occurs h]
    rfl

/-- The pattern does not see what comes after a text, if that has no closing bracket. -/
theorem blind_external {after : Text} (h : ']' ∉ after) : external.body.Blind after :=
  (passing_takeWhile _).bind_blind (fun _ => (blind_one h).bind fun _ => blind_ofOption _)
    fun _ => (refuses_one h).bind _

/-- Texts around without brackets add no external link. -/
theorem hasExternal_between {before after : Text} (hbefore : '[' ∉ before) (hopen : '[' ∉ after)
    (hclose : ']' ∉ after) (text : Text) :
    hasExternal (before ++ text ++ after) = hasExternal text := by
  rw [hasExternal, hasExternal, List.append_assoc, Pattern.pieces_append_of_notMem hbefore,
    Pattern.pieces_append_of_blind (blind_external hclose) hopen, List.any_append, List.any_append,
    any_plain fun _ => rfl, any_plain fun _ => rfl, Bool.false_or, Bool.or_false]

/-- Texts around without brackets are kept. -/
theorem resolveExternal_between {before after : Text} (hbefore : '[' ∉ before)
    (hopen : '[' ∉ after) (hclose : ']' ∉ after) (text : Text) :
    resolveExternal (before ++ text ++ after) = before ++ resolveExternal text ++ after := by
  have hpasses : ∀ passes text, resolveExternalUpTo passes (before ++ text ++ after)
      = before ++ resolveExternalUpTo passes text ++ after := by
    intro passes
    induction passes with
    | zero => exact fun _ => rfl
    | succ passes ih =>
      intro text
      rw [resolveExternalUpTo, resolveExternalUpTo, hasExternal_between hbefore hopen hclose]
      split
      · rw [Pattern.replaceWith_between hbefore (blind_external hclose) hopen, ih]
      · rfl
  rw [resolveExternal, resolveExternal, hpasses, List.count_append, List.count_append,
    List.count_eq_zero.mpr hbefore, List.count_eq_zero.mpr hopen, Nat.zero_add, Nat.add_zero]

/-! ## Raised addresses -/

/-- A raised address ends at the parenthesis that closes it. -/
theorem blind_raisedAddress {after : Text} (h : ∀ c ∈ after, c ∉ "([https:/)".toList) :
    raisedAddress.body.Blind after := by
  -- each part of the pattern asks for a character that the text behind does not have
  have hexactly : ∀ literal : String, literal.toList ⊆ "([https:/)".toList →
      (exactly literal).Blind after := by
    intro literal hsubset
    refine blind_matching fun c hc d hd => beq_eq_false_iff_ne.mpr ?_
    rintro rfl
    exact h d hc (hsubset hd)
  have hnot : ∀ c ∈ "([https:/)".toList, c ∉ after := fun c hc hmem => h c hmem hc
  have hscheme : (firstOf [exactly "http:", exactly "https:"]).Blind after :=
    (hexactly "http:" (by decide)).orElse
      ((hexactly "https:" (by decide)).orElse (blind_ofOption none))
  have hclosing : (optional (one ']') >>= fun _ => one ')').Blind after :=
    (passing_optional_one ']').bind_blind (fun _ => blind_one (hnot ')' (by decide)))
      fun _ => refuses_one (hnot ')' (by decide))
  have haddress : (skipWhile1 (fun c => c ≠ ']' && c ≠ '(' && c ≠ ')')
      >>= fun _ => optional (one ']') >>= fun _ => one ')').Blind after :=
    (passing_skipWhile1 _).bind_blind (fun _ => hclosing)
      fun _ => Refuses.of_next fun _ => refuses_one (hnot ')' (by decide))
  exact (blind_one (hnot '(' (by decide))).bind fun _ =>
    (blind_one (hnot '[' (by decide))).optional.bind fun _ =>
      hscheme.optional.bind fun _ => (hexactly "//" (by decide)).bind fun _ => haddress

/-- Texts around without the marks of raised addresses are kept. -/
theorem removeRaised_between {before after : Text} (hbefore : '^' ∉ before)
    (h : ∀ c ∈ after, c ∉ "^([https:/)".toList) (text : Text) :
    raisedAddress.remove (before ++ text ++ after) = before ++ raisedAddress.remove text ++ after := by
  have hafter : ∀ c ∈ after, c ∉ "([https:/)".toList :=
    fun c hc hmem => h c hc (List.mem_cons_of_mem '^' hmem)
  exact Pattern.replaceWith_between hbefore (blind_raisedAddress hafter)
    (fun hmem => h '^' hmem (by decide)) _ text

end WikiText.Link
