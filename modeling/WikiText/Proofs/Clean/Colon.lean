import WikiText.Proofs.Clean.Passes
import WikiText.Proofs.Emphasis
import WikiText.Proofs.Tidy

/-!
# Colons stay

No pass over a text without tags, brackets and tables takes a colon out of it, but for the one that
removes raised addresses: a colon is no apostrophe, is in no name of a character reference and is
shown. So such a text with a colon is not cleaned to nothing, if no parenthesis before the colon may
begin an address (`clean_ne_nil_of_colon`).
-/

namespace WikiText

open Unicode (isWhiteSpace mem_of_lookup)

/-! ## Character references -/

namespace Entity

/-- The bytes of a text with a colon hold that of the colon. -/
theorem mem_bytes_of_colon {name : Text} (h : ':' ∈ name) :
    58 ∈ (String.ofList name).toByteArray.data.toList := by
  have hbytes : (String.ofList name).toByteArray.data.toList = name.flatMap String.utf8EncodeChar :=
    List.toList_data_toByteArray
  rw [hbytes, List.mem_flatMap]
  exact ⟨':', h, by decide⟩

/-- The name of a character reference has no colon. -/
theorem colon_notMem_of_named? {name : Text} {c : Char} (h : named? name = some c) : ':' ∉ name := by
  have hnames : ∀ initial, ((namesFrom initial).all fun entry =>
      !entry.1.toByteArray.data.toList.contains 58) = true := by
    intro initial
    unfold namesFrom
    split <;> decide +kernel
  obtain ⟨initial, -, hlookup⟩ := Option.bind_eq_some_iff.mp h
  obtain ⟨code, hcode, -⟩ := Option.map_eq_some_iff.mp hlookup
  have hentry := List.all_eq_true.mp (hnames initial) _ (mem_of_lookup hcode)
  intro hcolon
  rw [Bool.not_eq_true', List.contains_eq_mem, decide_eq_false_iff_not] at hentry
  exact hentry (mem_bytes_of_colon hcolon)

/-- A number is written with digits only. -/
theorem digit_of_number? {base n : ℕ} {digits : Text} (h : number? base digits = some n) {c : Char}
    (hc : c ∈ digits) : (digitValue? base c).isSome = true := by
  -- the fold is over digits only, from any number on
  have hfold : ∀ start, (digits.foldlM (fun n c => (digitValue? base c).map (n * base + ·)) start)
      = some n → ∀ c ∈ digits, (digitValue? base c).isSome = true := by
    clear h hc
    induction digits with
    | nil => exact fun _ _ c hc => absurd hc List.not_mem_nil
    | cons d digits ih =>
      intro start hfold c hc
      rw [List.foldlM_cons, Option.bind_eq_bind, Option.bind_eq_some_iff] at hfold
      obtain ⟨next, hnext, hfold⟩ := hfold
      obtain ⟨value, hvalue, -⟩ := Option.map_eq_some_iff.mp hnext
      rcases List.mem_cons.mp hc with rfl | hc
      · rw [hvalue]
        rfl
      · exact ih next hfold c hc
  rw [number?] at h
  split at h
  · cases h
  · exact hfold 0 h c hc

/-- The digits of a character reference have no colon. -/
theorem colon_notMem_of_number? {base n : ℕ} {digits : Text} (h : number? base digits = some n) :
    ':' ∉ digits := by
  intro hcolon
  have hdigit := digit_of_number? h hcolon
  simp [digitValue?] at hdigit

/-- No colon is in the body of a reference. -/
theorem colon_notMem_of_ofBody? {body : Text} {c : Char} (h : ofBody? body = some c) : ':' ∉ body := by
  have hnumber : ∀ {base : ℕ} {digits : Text}, (number? base digits).bind ofCodePoint? = some c →
      ':' ∉ digits := by
    intro base digits hbind
    obtain ⟨n, hn, -⟩ := Option.bind_eq_some_iff.mp hbind
    exact colon_notMem_of_number? hn
  unfold ofBody? at h
  split at h
  · simpa using hnumber h
  · simpa using hnumber h
  · simpa using hnumber h
  · exact colon_notMem_of_named? h

/-- Decoding keeps a colon. -/
theorem colon_mem_decode {text : Text} (h : ':' ∈ text) : ':' ∈ decode text := by
  refine Pattern.mem_replaceWith_of_mem (by decide) ?_ h
  intro tail rest value hrun hmem
  obtain ⟨body, middle, hbody, hrun⟩ := Scanner.exists_of_bind hrun
  obtain ⟨_, last, hsemicolon, hrun⟩ := Scanner.exists_of_bind hrun
  obtain ⟨hvalue, rfl⟩ := Scanner.run_ofOption_eq_some.mp hrun
  have htail : tail = body ++ ';' :: last := by
    rw [← Scanner.run_one_eq_some.mp hsemicolon]
    cases hbody
    exact List.takeWhile_append_dropWhile.symm
  rw [htail] at hmem
  rcases List.mem_append.mp hmem with hmem | hmem
  · exact absurd hmem (colon_notMem_of_ofBody? hvalue)
  · exact List.mem_of_ne_of_mem (by decide) hmem

end Entity

/-! ## The last pass -/

namespace Tidy

/-- Tightening dots keeps a colon. -/
theorem colon_mem_tighten {text : Text} (h : ':' ∈ text) : ':' ∈ Ellipsis.tighten text := by
  refine Pattern.mem_replaceWith_of_mem (by decide) ?_ h
  intro tail rest value hrun hmem
  obtain ⟨before, after, hbefore, hafter, rfl⟩ := run_spaced.mp hrun
  have hnot : ∀ {blank : Text}, Text.Blank blank → ':' ∉ blank :=
    fun hblank => hblank.notMem (by decide)
  simpa [hnot hbefore, hnot hafter] using hmem

/-- Reducing white space keeps a colon. -/
theorem colon_mem_reduceSpace {text : Text} (h : ':' ∈ text) : ':' ∈ reduceSpace text := by
  have hshown : ':' ∈ shown text :=
    List.mem_filter.mpr ⟨List.mem_map.mpr ⟨':', h, rfl⟩, by decide⟩
  obtain ⟨front, back, heq⟩ := List.append_of_mem hshown
  rw [reduceSpace_eq, heq, reduce_append_cons (by decide)]
  exact List.mem_append_right _ List.mem_cons_self

/-- Trimming keeps a colon. -/
theorem colon_mem_trim {text : Text} (h : ':' ∈ text) : ':' ∈ text.trim := by
  obtain ⟨left, right, hleft, hright, heq⟩ := Text.exists_eq_trim text
  rw [heq] at h
  have hnot : ∀ {blank : Text}, Text.Blank blank → ':' ∉ blank :=
    fun hblank => hblank.notMem (by decide)
  simpa [hnot hleft, hnot hright] using h

/-- Of a text with a colon something is left when it is tidied. -/
theorem tidy_ne_nil {text : Text} (h : ':' ∈ text) (options : Options) : tidy options text ≠ [] := by
  have hreduced := colon_mem_tighten (colon_mem_reduceSpace (Entity.colon_mem_decode h))
  rw [tidy]
  apply Unicode.nfc_ne_nil
  split
  · exact List.ne_nil_of_mem hreduced
  · exact List.ne_nil_of_mem (colon_mem_trim hreduced)

end Tidy

/-! ## All passes -/

/-- No raised address begins before the first parenthesis. -/
theorem remove_raisedAddress {front : Text} (h : '(' ∉ front) (back : Text) :
    Link.raisedAddress.remove (front ++ ':' :: back)
      = front ++ ':' :: Link.raisedAddress.remove back := by
  -- a raised address goes on with a parenthesis, which the front does not have
  have hnone : ∀ {c : Char} {rest : Text}, c ≠ '(' → Link.raisedAddress.body.run (c :: rest) = none := by
    intro c rest hc
    change ((Scanner.one '(').run (c :: rest)).bind _ = none
    rw [Scanner.run_one_of_ne hc]
    rfl
  induction front with
  | nil => exact Pattern.replaceWith_cons_of_ne (by decide) _ _
  | cons c front ih =>
    obtain ⟨-, hrest⟩ := List.ne_and_not_mem_of_not_mem_cons h
    have hcons : Link.raisedAddress.remove (c :: (front ++ ':' :: back))
        = c :: Link.raisedAddress.remove (front ++ ':' :: back) := by
      by_cases hc : c = '^'
      · subst hc
        apply Pattern.replaceWith_cons_of_none
        cases front with
        | nil => exact hnone (by decide)
        | cons d front => exact hnone (List.ne_and_not_mem_of_not_mem_cons hrest).1.symm
      · exact Pattern.replaceWith_cons_of_ne hc _ _
    rw [List.cons_append, hcons, ih hrest, List.cons_append]

/-- **A text with a colon is not cleaned to nothing**, if it has no tags, brackets and tables, and no
parenthesis before the colon. -/
theorem clean_ne_nil_of_colon {front back : Text} (htag : '<' ∉ front ++ ':' :: back)
    (hbracket : '[' ∉ front ++ ':' :: back) (hbar : '|' ∉ front ++ ':' :: back)
    (hparenthesis : '(' ∉ front) (namespaces : Namespaces) (options : Options) :
    (clean namespaces options (front ++ ':' :: back)).value ≠ [] := by
  have htable : ¬ ['{', '|'] <:+: front ++ ':' :: back := by
    intro hin
    exact hbar (hin.subset (by simp))
  rw [clean, cleanUpTo, cleanWith_of_notMem id namespaces _ options htag hbracket htable,
    remove_raisedAddress hparenthesis]
  exact Tidy.tidy_ne_nil (Emphasis.mem_stripAll (by decide) (by simp)) options

end WikiText
