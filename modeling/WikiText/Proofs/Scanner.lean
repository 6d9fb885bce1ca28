import Mathlib.Data.List.Forall2
import Mathlib.Data.List.Infix
import Mathlib.Data.List.TakeWhile
import WikiText.Scanner

/-!
# Scanners and what comes after

Few scanners read the same of a text whatever comes after it, for a run of symbols goes on as long as
it can. But a construct that ends with a symbol of its own is not read any further into symbols
among which that one is not. `Blind` says that a scanner is not affected by the symbols after its
text, `Passing` that it either is not or reads the text to its end, and `Refuses` that it accepts at
no place of the symbols after: a passing scanner before a blind one that refuses is blind
(`Passing.bind_blind`).
-/

namespace WikiText

namespace Scanner

variable {σ α β : Type} {after : List σ}

/-- The scanner reads the same of a text whether or not another text comes after it. -/
def Blind (scanner : Scanner σ α) (after : List σ) : Prop :=
  ∀ text, scanner.run (text ++ after)
    = (scanner.run text).map fun (a, rest) => (a, rest ++ after)

/-- The scanner accepts at no place of a text. -/
def Refuses (scanner : Scanner σ α) (after : List σ) : Prop :=
  ∀ rest, rest <:+ after → scanner.run rest = none

/-- The scanner reads the same of a text whether or not another text comes after it, unless it reads
the text to its end in both cases. -/
def Passing (scanner : Scanner σ α) (after : List σ) : Prop :=
  ∀ text, scanner.run (text ++ after)
        = (scanner.run text).map (fun (a, rest) => (a, rest ++ after)) ∨
    (∀ a rest, scanner.run (text ++ after) = some (a, rest) → rest <:+ after) ∧
      ∀ a rest, scanner.run text = some (a, rest) → rest = []

/-! ## What is read -/

/-- The second of two scanners reads what the first leaves. -/
theorem run_bind (scanner : Scanner σ α) (next : α → Scanner σ β) (text : List σ) :
    (scanner >>= next).run text
      = (scanner.run text).bind fun (a, rest) => (next a).run rest :=
  rfl

/-- After a first scanner that succeeds the second one decides. -/
theorem run_bind_of_eq_some {scanner : Scanner σ α} {next : α → Scanner σ β} {text middle : List σ}
    {a : α} (h : scanner.run text = some (a, middle)) :
    (scanner >>= next).run text = (next a).run middle := by
  rw [run_bind, h]
  rfl

theorem run_pure (a : α) (text : List σ) : (pure a : Scanner σ α).run text = some (a, text) :=
  rfl

/-- The second of two scanners is asked if the first one fails. -/
theorem run_orElse (first second : Scanner σ α) (text : List σ) :
    (first <|> second).run text = (first.run text).or (second.run text) := by
  change (first.orElse fun _ => second).run text = _
  simp only [Scanner.orElse]
  cases first.run text <;> rfl

/-- Two scanners succeed, if the first does and the second cannot fail. -/
theorem run_bind_ne_none {scanner : Scanner σ α} {next : α → Scanner σ β} {text : List σ}
    (h : scanner.run text ≠ none) (hnext : ∀ a rest, (next a).run rest ≠ none) :
    (scanner >>= next).run text ≠ none := by
  obtain ⟨⟨a, rest⟩, hrun⟩ := Option.ne_none_iff_exists'.mp h
  rw [run_bind, hrun]
  exact hnext a rest

/-- Alternatives are refused only if the last one is. -/
theorem run_orElse_ne_none {first second : Scanner σ α} {text : List σ}
    (h : second.run text ≠ none) : (first <|> second).run text ≠ none := by
  rw [run_orElse, Ne, Option.or_eq_none_iff]
  exact fun hnone => h hnone.2

/-- If all scanners fail, none is the first to succeed. -/
theorem run_firstOf_eq_none {scanners : List (Scanner σ α)} {text : List σ}
    (h : ∀ scanner ∈ scanners, scanner.run text = none) : (firstOf scanners).run text = none := by
  induction scanners with
  | nil => rfl
  | cons scanner others ih =>
    rw [firstOf, run_orElse, h scanner List.mem_cons_self]
    exact ih fun other hother => h other (List.mem_cons_of_mem scanner hother)

/-- What accepts is the first scanner of the list that does. -/
theorem exists_of_firstOf {scanners : List (Scanner σ α)} {text : List σ} {found : α × List σ}
    (h : (firstOf scanners).run text = some found) :
    ∃ front scanner back, scanners = front ++ scanner :: back ∧
      (∀ other ∈ front, other.run text = none) ∧ scanner.run text = some found := by
  induction scanners with
  | nil => cases h
  | cons scanner others ih =>
    rw [firstOf, run_orElse, Option.or_eq_some_iff] at h
    rcases h with hfirst | ⟨hnone, hlater⟩
    · exact ⟨[], scanner, others, rfl, fun _ hmem => (List.not_mem_nil hmem).elim, hfirst⟩
    · obtain ⟨front, later, back, rfl, hfront, hrun⟩ := ih hlater
      exact ⟨scanner :: front, later, back, rfl, List.forall_mem_cons.mpr ⟨hnone, hfront⟩, hrun⟩

/-- If one scanner succeeds, so does the first that does. -/
theorem run_firstOf_ne_none {scanners : List (Scanner σ α)} {scanner : Scanner σ α} {text : List σ}
    (hmem : scanner ∈ scanners) (h : scanner.run text ≠ none) :
    (firstOf scanners).run text ≠ none := by
  induction scanners with
  | nil => cases hmem
  | cons first others ih =>
    rw [firstOf, run_orElse, Ne, Option.or_eq_none_iff]
    rintro ⟨hnone, hothers⟩
    rcases List.mem_cons.mp hmem with rfl | hmem
    · exact h hnone
    · exact ih hmem hothers

/-- The symbol in front is read. -/
theorem run_one_self [BEq σ] [LawfulBEq σ] (s : σ) (rest : List σ) :
    (one s).run (s :: rest) = some ((), rest) := by
  rw [one, run_bind, satisfy]
  simp only [beq_self_eq_true, if_true, Option.bind_some, run_pure]

/-- Another symbol in front is not read. -/
theorem run_one_of_ne [BEq σ] [LawfulBEq σ] {s t : σ} (h : t ≠ s) (rest : List σ) :
    (one s).run (t :: rest) = none := by
  rw [one, run_bind, satisfy]
  simp only [beq_eq_false_iff_ne.mpr h, Bool.false_eq_true, if_false, Option.bind_none]

/-- A nonempty run is read, if there is one. -/
theorem run_takeWhile1 (p : σ → Bool) (text : List σ) :
    (takeWhile1 p).run text
      = if text.takeWhile p = [] then none else some (text.takeWhile p, text.dropWhile p) := by
  cases text with
  | nil => rfl
  | cons s rest =>
    by_cases hs : p s = true
    · simp [takeWhile1, run_bind, satisfy, takeWhile, run_pure, hs]
    · simp [takeWhile1, run_bind, satisfy, hs]

/-- What satisfies a property is read up to what does not. -/
theorem run_takeWhile1_append {p : σ → Bool} {front rest : List σ} (hfront : ∀ s ∈ front, p s = true)
    (hne : front ≠ []) (hrest : ∀ s ∈ rest.head?, p s = false) :
    (takeWhile1 p).run (front ++ rest) = some (front, rest) := by
  have hstop : rest.takeWhile p = [] ∧ rest.dropWhile p = rest := by
    cases rest with
    | nil => exact ⟨rfl, rfl⟩
    | cons s rest =>
      have hs := Bool.eq_false_iff.mp (hrest s rfl)
      exact ⟨List.takeWhile_cons_of_neg hs, List.dropWhile_cons_of_neg hs⟩
  rw [run_takeWhile1, List.takeWhile_append_of_pos hfront, List.dropWhile_append_of_pos hfront,
    hstop.1, hstop.2, List.append_nil, if_neg hne]

theorem run_skipWhile1_append {p : σ → Bool} {front rest : List σ} (hfront : ∀ s ∈ front, p s = true)
    (hne : front ≠ []) (hrest : ∀ s ∈ rest.head?, p s = false) :
    (skipWhile1 p).run (front ++ rest) = some ((), rest) :=
  run_bind_of_eq_some (run_takeWhile1_append hfront hne hrest)

/-- A run is skipped up to its end. -/
theorem run_skipWhile_append {p : σ → Bool} {front rest : List σ} (hfront : ∀ s ∈ front, p s = true)
    (hrest : ∀ s ∈ rest.head?, p s = false) : (skipWhile p).run (front ++ rest) = some ((), rest) := by
  have hrun : (skipWhile p).run (front ++ rest) = some ((), (front ++ rest).dropWhile p) := rfl
  rw [hrun, List.dropWhile_append_of_pos hfront]
  cases rest with
  | nil => rfl
  | cons s rest => rw [List.dropWhile_cons_of_neg (Bool.eq_false_iff.mp (hrest s rfl))]

/-- What is skipped is a run. -/
theorem exists_of_skipWhile {p : σ → Bool} {input rest : List σ} {u : Unit}
    (h : (skipWhile p).run input = some (u, rest)) :
    ∃ front, (∀ s ∈ front, p s = true) ∧ input = front ++ rest := by
  have hrest : input.dropWhile p = rest := (Prod.mk.inj (Option.some.inj h)).2
  refine ⟨input.takeWhile p, fun s hs => List.mem_takeWhile_imp hs, ?_⟩
  rw [← hrest, List.takeWhile_append_dropWhile]

/-- What is skipped is a nonempty run. -/
theorem exists_of_skipWhile1 {p : σ → Bool} {input rest : List σ} {u : Unit}
    (h : (skipWhile1 p).run input = some (u, rest)) :
    ∃ front ≠ [], (∀ s ∈ front, p s = true) ∧ input = front ++ rest := by
  rw [skipWhile1, run_bind, run_takeWhile1] at h
  split at h
  · cases h
  · next hne =>
    have hrest : input.dropWhile p = rest := (Prod.mk.inj (Option.some.inj h)).2
    refine ⟨input.takeWhile p, hne, fun s hs => List.mem_takeWhile_imp hs, ?_⟩
    rw [← hrest, List.takeWhile_append_dropWhile]

/-- The symbols that are read are those before what is left. -/
theorem run_withSource_append {scanner : Scanner σ α} {front rest : List σ} {a : α}
    (h : scanner.run (front ++ rest) = some (a, rest)) :
    (withSource scanner).run (front ++ rest) = some ((a, front), rest) := by
  simp [withSource, h]

/-- Two scanners that succeed do so one after the other. -/
theorem exists_of_bind {scanner : Scanner σ α} {next : α → Scanner σ β} {input rest : List σ} {b : β}
    (h : (scanner >>= next).run input = some (b, rest)) :
    ∃ a middle, scanner.run input = some (a, middle) ∧ (next a).run middle = some (b, rest) := by
  rw [run_bind] at h
  obtain ⟨⟨a, middle⟩, hfirst, hnext⟩ := Option.bind_eq_some_iff.mp h
  exact ⟨a, middle, hfirst, hnext⟩

/-- If one of two scanners succeeds, it is one of them. -/
theorem exists_of_orElse {first second : Scanner σ α} {input rest : List σ} {a : α}
    (h : (first <|> second).run input = some (a, rest)) :
    first.run input = some (a, rest) ∨ second.run input = some (a, rest) := by
  change (first.orElse fun _ => second).run input = some (a, rest) at h
  simp only [Scanner.orElse] at h
  split at h
  · next found hfirst => exact .inl (hfirst.trans h)
  · exact .inr h

/-- A symbol that passes the test is read from the front. -/
theorem run_satisfy_eq_some {p : σ → Bool} {input rest : List σ} {s : σ} :
    (satisfy p).run input = some (s, rest) ↔ p s = true ∧ input = s :: rest := by
  cases input with
  | nil => simp [satisfy]
  | cons t tail =>
    by_cases ht : p t = true
    · simp only [satisfy, if_pos ht, Option.some.injEq, Prod.mk.injEq, List.cons.injEq]
      constructor
      · rintro ⟨rfl, rfl⟩
        exact ⟨ht, rfl, rfl⟩
      · rintro ⟨-, rfl, rfl⟩
        exact ⟨rfl, rfl⟩
    · simp only [satisfy, if_neg ht, List.cons.injEq]
      constructor
      · intro hnone
        cases hnone
      · rintro ⟨hs, rfl, -⟩
        exact absurd hs ht

/-- The given symbol is read from the front. -/
theorem run_one_eq_some [BEq σ] [LawfulBEq σ] {s : σ} {input rest : List σ} {u : Unit} :
    (one s).run input = some (u, rest) ↔ input = s :: rest := by
  constructor
  · intro hrun
    obtain ⟨t, middle, hfirst, hpure⟩ := exists_of_bind hrun
    cases hpure
    obtain ⟨ht, rfl⟩ := run_satisfy_eq_some.mp hfirst
    rw [eq_of_beq ht]
  · rintro rfl
    exact run_one_self s rest

/-- A look at the next symbol reads nothing. -/
theorem run_notBefore_eq_some {p : σ → Bool} {input rest : List σ} {u : Unit} :
    (notBefore p).run input = some (u, rest) ↔ input.head?.any p = false ∧ input = rest := by
  simp only [notBefore]
  split
  · next hbefore => simp [hbefore]
  · next hbefore => simp [hbefore]

/-- A value that is there reads nothing. -/
theorem run_ofOption_eq_some {value : Option α} {input rest : List σ} {a : α} :
    (ofOption value).run input = some (a, rest) ↔ value = some a ∧ input = rest := by
  simp [ofOption]

/-- The symbol that is read is in the input. -/
theorem mem_of_run_one [BEq σ] [LawfulBEq σ] {s : σ} {input rest : List σ} {u : Unit}
    (h : (one s).run input = some (u, rest)) : s ∈ input := by
  rw [run_one_eq_some.mp h]
  exact List.mem_cons_self

/-- A list is read where symbols stand that agree with it one by one. -/
theorem run_matching_eq_some {agree : σ → σ → Bool} {list input rest : List σ} {u : Unit} :
    (matching agree list).run input = some (u, rest) ↔
      ∃ front, List.Forall₂ (agree · · = true) list front ∧ input = front ++ rest := by
  induction list generalizing input with
  | nil =>
    constructor
    · intro hrun
      cases hrun
      exact ⟨[], .nil, rfl⟩
    · rintro ⟨front, hfront, rfl⟩
      rw [List.forall₂_nil_left_iff.mp hfront]
      rfl
  | cons t list ih =>
    constructor
    · intro hrun
      obtain ⟨s, middle, hfirst, hrest⟩ := exists_of_bind hrun
      obtain ⟨hs, rfl⟩ := run_satisfy_eq_some.mp hfirst
      obtain ⟨front, hfront, rfl⟩ := ih.mp hrest
      exact ⟨s :: front, .cons hs hfront, rfl⟩
    · rintro ⟨front, hfront, rfl⟩
      obtain ⟨s, tail, hs, htail, rfl⟩ := List.forall₂_cons_left_iff.mp hfront
      have hfirst : (satisfy (agree t)).run (s :: (tail ++ rest)) = some (s, tail ++ rest) :=
        run_satisfy_eq_some.mpr ⟨hs, rfl⟩
      exact (congrArg (Option.bind · _) hfirst).trans (ih.mpr ⟨tail, htail, rfl⟩)

/-- A literal text is read where it stands. -/
theorem run_matching_beq [BEq σ] [LawfulBEq σ] {literal input rest : List σ} {u : Unit} :
    (matching (· == ·) literal).run input = some (u, rest) ↔ input = literal ++ rest := by
  simp only [run_matching_eq_some, beq_iff_eq, List.forall₂_eq_eq_eq, exists_eq_left']

/-- A literal in front is read. -/
theorem run_matching_self [BEq σ] [LawfulBEq σ] (literal rest : List σ) :
    (matching (· == ·) literal).run (literal ++ rest) = some ((), rest) :=
  run_matching_beq.mpr rfl

/-- What agrees with the symbols of a list does not hold a symbol that agrees with none of them. -/
theorem notMem_of_agree {agree : σ → σ → Bool} {stop : σ} {list front : List σ}
    (h : List.Forall₂ (agree · · = true) list front) (hlist : ∀ s ∈ list, agree s stop = false) :
    stop ∉ front := by
  induction h with
  | nil => exact List.not_mem_nil
  | cons hsame hrest ih =>
    apply List.not_mem_cons_of_ne_of_not_mem
    · rintro rfl
      rw [hlist _ List.mem_cons_self] at hsame
      cases hsame
    · exact ih fun s hs => hlist s (List.mem_cons_of_mem _ hs)

/-- A list is read in front of a symbol that agrees with none of its symbols, if it is read at all. -/
theorem exists_of_matching {agree : σ → σ → Bool} {stop : σ} {list front back rest : List σ}
    (hlist : ∀ s ∈ list, agree s stop = false) {u : Unit}
    (h : (matching agree list).run (front ++ stop :: back) = some (u, rest)) :
    ∃ read left, List.Forall₂ (agree · · = true) list read ∧ front = read ++ left ∧
      rest = left ++ stop :: back := by
  obtain ⟨read, hread, heq⟩ := run_matching_eq_some.mp h
  have hstop : stop ∉ read := notMem_of_agree hread hlist
  rcases List.append_eq_append_iff.mp heq with ⟨more, rfl, hmore⟩ | ⟨left, rfl, hleft⟩
  · cases more with
    | nil => exact ⟨front, [], by simpa using hread, by simp, hmore.symm⟩
    | cons s more =>
      rw [(List.cons.inj hmore).1] at hstop
      exact absurd (List.mem_append_right front List.mem_cons_self) hstop
  · exact ⟨read, left, hread, rfl, hleft⟩

/-- What is read up to a place where `close` accepts, if it accepts at no place before. -/
theorem upToRun_append {close : Scanner σ α} {content place rest : List σ} {a : α}
    (hcontent : ∀ s later, s :: later <:+ content → close.run (s :: (later ++ place)) = none)
    (hclose : close.run place = some (a, rest)) :
    upToRun close (content ++ place) = some (content, rest) := by
  induction content with
  | nil =>
    cases place with
    | nil => rw [List.nil_append, upToRun, hclose]; rfl
    | cons s place => rw [List.nil_append, upToRun, hclose]
  | cons s content ih =>
    have hlater := ih fun t later hsuffix => hcontent t later (hsuffix.trans (List.suffix_cons s content))
    rw [List.cons_append, upToRun, hcontent s content (List.suffix_refl _), hlater]
    rfl

/-- The symbols before the place where `close` accepts, and that place. -/
theorem exists_of_upToRun {close : Scanner σ α} {input content rest : List σ}
    (h : upToRun close input = some (content, rest)) :
    ∃ a place, input = content ++ place ∧ close.run place = some (a, rest) := by
  induction input generalizing content with
  | nil =>
    obtain ⟨⟨a, left⟩, hclose, heq⟩ := Option.map_eq_some_iff.mp h
    cases heq
    exact ⟨a, [], rfl, hclose⟩
  | cons s tail ih =>
    rw [upToRun] at h
    split at h
    · next a left hclose =>
      cases h
      exact ⟨a, s :: tail, rfl, hclose⟩
    · obtain ⟨⟨more, left⟩, hlater, heq⟩ := Option.map_eq_some_iff.mp h
      cases heq
      obtain ⟨a, place, rfl, hclose⟩ := ih hlater
      exact ⟨a, place, rfl, hclose⟩

/-- Symbols are read up to a place where `close` accepts if there is one. -/
theorem upToRun_ne_none {close : Scanner σ α} {input place : List σ} (hplace : place <:+ input)
    (hclose : close.run place ≠ none) : upToRun close input ≠ none := by
  induction input with
  | nil =>
    rw [List.suffix_nil.mp hplace] at hclose
    rw [upToRun, Ne, Option.map_eq_none_iff]
    exact hclose
  | cons s tail ih =>
    rw [upToRun]
    rcases List.suffix_cons_iff.mp hplace with rfl | hplace
    · obtain ⟨found, hfound⟩ := Option.ne_none_iff_exists'.mp hclose
      rw [hfound]
      exact Option.some_ne_none _
    · split
      · exact Option.some_ne_none _
      · rw [Ne, Option.map_eq_none_iff]
        exact ih hplace

/-- What is read up to a symbol is everything before the first of it. -/
theorem upToRun_one [BEq σ] [LawfulBEq σ] (s : σ) (input : List σ) :
    upToRun (one s) input
      = match input.dropWhile (· != s) with
        | [] => none
        | _ :: rest => some (input.takeWhile (· != s), rest) := by
  induction input with
  | nil => rfl
  | cons t tail ih =>
    by_cases ht : t = s
    · subst ht
      rw [upToRun, run_one_self, List.dropWhile_cons_of_neg (by simp),
        List.takeWhile_cons_of_neg (by simp)]
    · rw [upToRun, run_one_of_ne ht, ih, List.dropWhile_cons_of_pos (by simpa using ht),
        List.takeWhile_cons_of_pos (by simpa using ht)]
      cases tail.dropWhile (· != s) <;> rfl

/-- What is read up to a symbol does not hold it. -/
theorem notMem_of_upToRun_one [BEq σ] [LawfulBEq σ] {s : σ} {input content rest : List σ}
    (h : upToRun (one s) input = some (content, rest)) : s ∉ content := by
  induction input generalizing content with
  | nil =>
    obtain ⟨_, -, heq⟩ := Option.map_eq_some_iff.mp h
    cases heq
    exact List.not_mem_nil
  | cons t tail ih =>
    rw [upToRun] at h
    split at h
    · cases h
      exact List.not_mem_nil
    · next hother =>
      obtain ⟨⟨more, left⟩, hlater, heq⟩ := Option.map_eq_some_iff.mp h
      cases heq
      intro hmem
      -- the run would have stopped at the character itself
      rcases List.mem_cons.mp hmem with rfl | hmem
      · rw [run_one_self] at hother
        cases hother
      · exact ih hlater hmem


/-! ## Composition -/

/-- A scanner that does not see what comes after a text also does so at its end. -/
theorem Blind.passing {scanner : Scanner σ α} (h : scanner.Blind after) : scanner.Passing after :=
  fun text => .inl (h text)

theorem Blind.bind {scanner : Scanner σ α} {next : α → Scanner σ β} (h : scanner.Blind after)
    (hnext : ∀ a, (next a).Blind after) : (scanner >>= next).Blind after := by
  intro text
  rw [run_bind, run_bind, h]
  cases scanner.run text with
  | none => rfl
  | some found => exact hnext found.1 found.2

theorem Refuses.bind {scanner : Scanner σ α} (h : scanner.Refuses after)
    (next : α → Scanner σ β) : (scanner >>= next).Refuses after := by
  intro rest hrest
  rw [run_bind, h rest hrest]
  rfl

/-- What the next scanner refuses at every place is refused. -/
theorem Refuses.of_next {scanner : Scanner σ α} {next : α → Scanner σ β}
    (h : ∀ a, (next a).Refuses after) : (scanner >>= next).Refuses after := by
  intro rest hrest
  rw [run_bind, Option.bind_eq_none_iff]
  rintro ⟨a, middle⟩ hfirst
  exact h a middle ((scanner.suffix hfirst).trans hrest)

theorem Passing.bind {scanner : Scanner σ α} {next : α → Scanner σ β} (h : scanner.Passing after)
    (hnext : ∀ a, (next a).Passing after) : (scanner >>= next).Passing after := by
  intro text
  rw [run_bind, run_bind]
  rcases h text with hsame | ⟨hafter, hend⟩
  · rw [hsame]
    cases scanner.run text with
    | none => exact .inl rfl
    | some found => exact hnext found.1 found.2
  -- the first ran through the whole text, so the second starts within what is behind
  · right
    constructor
    · intro b rest hrun
      obtain ⟨a, middle, hfirst, hsecond⟩ := exists_of_bind hrun
      exact ((next a).suffix hsecond).trans (hafter a middle hfirst)
    · intro b rest hrun
      obtain ⟨a, middle, hfirst, hsecond⟩ := exists_of_bind hrun
      have hmiddle := hend a middle hfirst
      exact List.suffix_nil.mp (hmiddle ▸ (next a).suffix hsecond)

/-- What a scanner that passes reads to the end is refused by the next one. -/
theorem Passing.bind_blind {scanner : Scanner σ α} {next : α → Scanner σ β}
    (h : scanner.Passing after) (hblind : ∀ a, (next a).Blind after)
    (hrefuses : ∀ a, (next a).Refuses after) : (scanner >>= next).Blind after := by
  intro text
  rw [run_bind, run_bind]
  rcases h text with hsame | ⟨hafter, hend⟩
  · rw [hsame]
    cases scanner.run text with
    | none => rfl
    | some found => exact hblind found.1 found.2
  · have hleft : (scanner.run (text ++ after)).bind (fun (a, rest) => (next a).run rest) = none := by
      rw [Option.bind_eq_none_iff]
      rintro ⟨a, rest⟩ hfound
      exact hrefuses a rest (hafter a rest hfound)
    -- with the text used up the second has nothing left to read
    have hright : (scanner.run text).bind (fun (a, rest) => (next a).run rest) = none := by
      rw [Option.bind_eq_none_iff]
      rintro ⟨a, rest⟩ hfound
      rw [hend a rest hfound]
      exact hrefuses a [] List.nil_suffix
    rw [hleft, hright]
    rfl

theorem Blind.orElse {first second : Scanner σ α} (h : first.Blind after)
    (h' : second.Blind after) : (first <|> second).Blind after := by
  intro text
  change (first.orElse fun _ => second).run (text ++ after)
    = ((first.orElse fun _ => second).run text).map _
  simp only [Scanner.orElse, h text]
  cases first.run text with
  | none => exact h' text
  | some found => rfl

/-! ## Basic scanners -/

theorem blind_pure (a : α) : (pure a : Scanner σ α).Blind after :=
  fun _ => rfl

/-- A value that may be missing is blind. -/
theorem blind_ofOption (value : Option α) : (ofOption value : Scanner σ α).Blind after := by
  intro text
  cases value <;> rfl

/-- A test that nothing in the text after passes is blind. -/
theorem blind_satisfy {p : σ → Bool} (h : ∀ s ∈ after, p s = false) : (satisfy p).Blind after := by
  intro text
  cases text with
  | nil =>
    cases after with
    | nil => rfl
    | cons s rest => simp [satisfy, h s List.mem_cons_self]
  | cons s rest =>
    simp only [satisfy, List.cons_append]
    split <;> rfl

/-- A test that nothing in a text passes is refused there. -/
theorem refuses_satisfy {p : σ → Bool} (h : ∀ s ∈ after, p s = false) :
    (satisfy p).Refuses after := by
  intro rest hrest
  cases rest with
  | nil => rfl
  | cons s rest => simp [satisfy, h s (hrest.subset List.mem_cons_self)]

/-- A symbol that is not in a text equals none in it. -/
theorem beq_eq_false_of_mem [BEq σ] [LawfulBEq σ] {s t : σ} (h : s ∉ after) (ht : t ∈ after) :
    (t == s) = false := by
  rw [beq_eq_false_iff_ne]
  rintro rfl
  exact h ht

/-- A symbol that is not in the text after is read blindly. -/
theorem blind_one [BEq σ] [LawfulBEq σ] {s : σ} (h : s ∉ after) : (one s).Blind after :=
  (blind_satisfy fun _ ht => beq_eq_false_of_mem h ht).bind fun _ => blind_pure ()

/-- A symbol that is not in a text is refused there. -/
theorem refuses_one [BEq σ] [LawfulBEq σ] {s : σ} (h : s ∉ after) : (one s).Refuses after :=
  (refuses_satisfy fun _ ht => beq_eq_false_of_mem h ht).bind _

/-- A test of one symbol is passing. -/
theorem passing_satisfy (p : σ → Bool) : (satisfy p).Passing after := by
  intro text
  cases text with
  | nil =>
    right
    constructor
    · intro a rest hrun
      exact (satisfy p).suffix hrun
    · intro a rest hrun
      cases hrun
  | cons s rest =>
    left
    simp only [satisfy, List.cons_append]
    split <;> rfl

/-- One symbol that may be left out is looked for at one place. -/
theorem passing_optional_one [BEq σ] (s : σ) : (optional (one s)).Passing after := by
  intro text
  cases text with
  | nil =>
    right
    constructor
    · intro a rest hrun
      exact (optional (one s)).suffix hrun
    · intro a rest hrun
      cases hrun
      rfl
  | cons t rest =>
    left
    change (Scanner.orElse _ fun _ => Scanner.pure ()).run _
      = ((Scanner.orElse _ fun _ => Scanner.pure ()).run _).map _
    simp only [Scanner.orElse, one, run_bind, satisfy, List.cons_append]
    by_cases hs : (t == s) = true
    · rw [if_pos hs, if_pos hs]
      rfl
    · rw [if_neg hs, if_neg hs]
      rfl

/-- A run may go on in the text after only if it reaches the end. -/
theorem passing_takeWhile (p : σ → Bool) : (takeWhile p).Passing after := by
  intro text
  -- whether the run stops inside the text or reaches its end
  by_cases hall : text.dropWhile p = []
  · right
    have hdrop : (text ++ after).dropWhile p = after.dropWhile p := by
      rw [List.dropWhile_append, hall]
      rfl
    constructor
    · intro a rest hrun
      cases hrun
      rw [hdrop]
      exact List.dropWhile_suffix p
    · intro a rest hrun
      cases hrun
      exact hall
  · left
    have hdrop : (text ++ after).dropWhile p = text.dropWhile p ++ after := by
      rw [List.dropWhile_append, if_neg (by rwa [List.isEmpty_iff])]
    have htake : (text ++ after).takeWhile p = text.takeWhile p := by
      have hsplit := List.takeWhile_append_dropWhile (p := p) (l := text ++ after)
      rw [hdrop, ← List.append_assoc, List.append_cancel_right_eq] at hsplit
      exact List.append_cancel_right (hsplit.trans List.takeWhile_append_dropWhile.symm)
    simp only [takeWhile, htake, hdrop, Option.map_some]

/-- A run that is skipped may go on in the text after only if it reaches the end. -/
theorem passing_skipWhile (p : σ → Bool) : (skipWhile p).Passing after :=
  (passing_takeWhile p).bind fun _ => (blind_pure ()).passing

/-- A nonempty run that is skipped may go on in the text after only if it reaches the end. -/
theorem passing_skipWhile1 (p : σ → Bool) : (skipWhile1 p).Passing after :=
  have hread : (takeWhile1 p).Passing after :=
    (passing_satisfy p).bind fun _ => (passing_takeWhile p).bind fun _ => (blind_pure _).passing
  hread.bind fun _ => (blind_pure ()).passing

/-- A literal that nothing in the text after agrees with is read blindly. -/
theorem blind_matching {agree : σ → σ → Bool} {literal : List σ}
    (h : ∀ s ∈ after, ∀ t ∈ literal, agree t s = false) :
    (matching agree literal).Blind after := by
  induction literal with
  | nil => exact blind_pure ()
  | cons t rest ih =>
    refine Blind.bind (blind_satisfy fun s hs => h s hs t List.mem_cons_self) fun _ => ih ?_
    exact fun s hs t ht => h s hs t (List.mem_cons_of_mem _ ht)

/-- A blind scanner is blind when it is optional. -/
theorem Blind.optional {scanner : Scanner σ Unit} (h : scanner.Blind after) :
    (optional scanner).Blind after :=
  h.orElse (blind_pure ())

end Scanner

end WikiText
