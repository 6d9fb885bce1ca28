/-!
# Scanners

A scanner reads a value off the front of a list of symbols or refuses it. It carries the proof that
what it leaves is a suffix of the list, so that whoever runs scanners in a loop has a length that
cannot grow; `Consumes` says of a scanner that the length shrinks.

Scanners are composed with `do` and `<|>`. The steps of a composition do not backtrack into each
other: `takeWhile` takes the longest run, and only `upTo` looks for a place where something else
accepts.
-/

namespace WikiText

/-- Reads a value off the front of a list of symbols, or refuses the list. -/
structure Scanner (σ α : Type) where
  /-- The value read and the symbols left, if the list is accepted. -/
  run : List σ → Option (α × List σ)
  /-- The symbols left are a suffix of the list. -/
  suffix : ∀ {input a rest}, run input = some (a, rest) → rest <:+ input

namespace Scanner

variable {σ α β : Type}

/-- Reads nothing. -/
protected def pure (a : α) : Scanner σ α where
  run input := some (a, input)
  suffix h := by
    cases h
    exact List.suffix_refl _

/-- Reads with one scanner, then with the scanner chosen by its value. -/
protected def bind (scanner : Scanner σ α) (next : α → Scanner σ β) : Scanner σ β where
  run input := (scanner.run input).bind fun (a, rest) => (next a).run rest
  suffix h := by
    obtain ⟨⟨a, middle⟩, first, second⟩ := Option.bind_eq_some_iff.mp h
    exact ((next a).suffix second).trans (scanner.suffix first)

instance : Monad (Scanner σ) where
  pure := Scanner.pure
  bind := Scanner.bind

/-- Reads with the first scanner, or with the second from the same place if the first refuses. -/
protected def orElse (first : Scanner σ α) (second : Unit → Scanner σ α) : Scanner σ α where
  run input :=
    match first.run input with
    | some found => some found
    | none => (second ()).run input
  suffix h := by
    split at h
    · next found =>
      cases h
      exact first.suffix found
    · exact (second ()).suffix h

instance : OrElse (Scanner σ α) where
  orElse := Scanner.orElse

/-- Reads nothing, and accepts only if there is a value. -/
def ofOption (value : Option α) : Scanner σ α where
  run input := value.map (·, input)
  suffix h := by
    obtain ⟨_, _, same⟩ := Option.map_eq_some_iff.mp h
    cases same
    exact List.suffix_refl _

/-- Reads with the first scanner of a list that accepts. -/
def firstOf : List (Scanner σ α) → Scanner σ α
  | [] => ofOption none
  | scanner :: others => scanner <|> firstOf others

/-- Reads one symbol that satisfies `p`. -/
def satisfy (p : σ → Bool) : Scanner σ σ where
  run
    | [] => none
    | s :: rest => if p s then some (s, rest) else none
  suffix {input a rest} h := by
    cases input with
    | nil => cases h
    | cons s tail =>
      simp only at h
      split at h
      · cases h
        exact List.suffix_cons _ _
      · cases h

/-- Reads one symbol, whatever it is. -/
def any : Scanner σ σ :=
  satisfy fun _ => true

/-- Reads one given symbol. -/
def one [BEq σ] (s : σ) : Scanner σ Unit := do
  let _ ← satisfy (· == s)

/-- Reads the longest run of symbols that satisfy `p`, possibly empty. -/
def takeWhile (p : σ → Bool) : Scanner σ (List σ) where
  run input := some (input.takeWhile p, input.dropWhile p)
  suffix h := by
    cases h
    exact List.dropWhile_suffix p

/-- Reads the longest run of symbols that satisfy `p`, which must not be empty. -/
def takeWhile1 (p : σ → Bool) : Scanner σ (List σ) := do
  let first ← satisfy p
  let more ← takeWhile p
  return first :: more

/-- Skips the longest run of symbols that satisfy `p`, possibly empty. -/
def skipWhile (p : σ → Bool) : Scanner σ Unit := do
  let _ ← takeWhile p

/-- Skips the longest run of symbols that satisfy `p`, which must not be empty. -/
def skipWhile1 (p : σ → Bool) : Scanner σ Unit := do
  let _ ← takeWhile1 p

/-- Reads nothing, and accepts unless the next symbol satisfies `p`. -/
def notBefore (p : σ → Bool) : Scanner σ Unit where
  run input := if input.head?.any p then none else some ((), input)
  suffix h := by
    split at h
    · cases h
    · cases h
      exact List.suffix_refl _

/-- Reads symbols that agree one by one with those of a given list. -/
def matching (agree : σ → σ → Bool) : List σ → Scanner σ Unit
  | [] => Scanner.pure ()
  | s :: rest => Scanner.bind (satisfy (agree s)) fun _ => matching agree rest

/-- Reads with a scanner if it accepts, else reads nothing. -/
def optional (scanner : Scanner σ Unit) : Scanner σ Unit :=
  scanner <|> Scanner.pure ()

/-- The symbols before the first place where `close` accepts, and what `close` leaves there. -/
def upToRun (close : Scanner σ α) : List σ → Option (List σ × List σ)
  | [] => (close.run []).map fun (_, rest) => ([], rest)
  | s :: tail =>
    match close.run (s :: tail) with
    | some (_, rest) => some ([], rest)
    | none => (upToRun close tail).map fun (content, rest) => (s :: content, rest)

theorem upToRun_suffix {close : Scanner σ α} {input content rest : List σ}
    (h : upToRun close input = some (content, rest)) : rest <:+ input := by
  induction input generalizing content with
  | nil =>
    obtain ⟨⟨a, _⟩, found, same⟩ := Option.map_eq_some_iff.mp h
    cases same
    exact close.suffix found
  | cons s tail ih =>
    unfold upToRun at h
    split at h
    · next found =>
      cases h
      exact close.suffix found
    · obtain ⟨⟨_, _⟩, later, same⟩ := Option.map_eq_some_iff.mp h
      cases same
      exact (ih later).trans (List.suffix_cons _ _)

/-- Reads the symbols before the first place where `close` accepts, and what `close` reads there. -/
def upTo (close : Scanner σ α) : Scanner σ (List σ) where
  run := upToRun close
  suffix := upToRun_suffix

/-- The values read one after the other by a scanner, at most `limit` of them. -/
def manyRun (scanner : Scanner σ α) : Nat → List σ → List α × List σ
  | 0, input => ([], input)
  | limit + 1, input =>
    match scanner.run input with
    | some (a, rest) =>
      let (others, left) := manyRun scanner limit rest
      (a :: others, left)
    | none => ([], input)

theorem manyRun_suffix (scanner : Scanner σ α) (limit : Nat) (input : List σ) :
    (manyRun scanner limit input).2 <:+ input := by
  induction limit generalizing input with
  | zero => exact List.suffix_refl _
  | succ limit ih =>
    unfold manyRun
    split
    · next found => exact (ih _).trans (scanner.suffix found)
    · exact List.suffix_refl _

/-- Reads with a scanner until it refuses. A scanner that consumes accepts at most once for each
symbol. -/
def many (scanner : Scanner σ α) : Scanner σ (List α) where
  run input := some (manyRun scanner input.length input)
  suffix {input _ _} h := by
    have kept := manyRun_suffix scanner input.length input
    rw [Option.some.inj h] at kept
    exact kept

/-- Reads with a scanner and gives the symbols it read besides its value. -/
def withSource (scanner : Scanner σ α) : Scanner σ (α × List σ) where
  run input := (scanner.run input).map fun (a, rest) =>
    ((a, input.take (input.length - rest.length)), rest)
  suffix h := by
    obtain ⟨⟨a, _⟩, found, same⟩ := Option.map_eq_some_iff.mp h
    cases same
    exact scanner.suffix found

/-! ## Progress -/

/-- Whenever the scanner accepts, it reads at least one symbol. -/
def Consumes (scanner : Scanner σ α) : Prop :=
  ∀ input a rest, scanner.run input = some (a, rest) → rest.length < input.length

theorem consumes_satisfy (p : σ → Bool) : (satisfy p).Consumes := by
  intro input a rest h
  cases input with
  | nil => cases h
  | cons s tail =>
    simp only [satisfy] at h
    split at h
    · cases h
      exact Nat.lt_succ_self _
    · cases h

theorem Consumes.bind {scanner : Scanner σ α} (h : scanner.Consumes)
    (next : α → Scanner σ β) : (scanner >>= next).Consumes := by
  intro input b rest found
  obtain ⟨⟨a, middle⟩, first, second⟩ := Option.bind_eq_some_iff.mp found
  exact Nat.lt_of_le_of_lt ((next a).suffix second).length_le (h _ _ _ first)

theorem consumes_bind {scanner : Scanner σ α} {next : α → Scanner σ β}
    (h : ∀ a, (next a).Consumes) : (scanner >>= next).Consumes := by
  intro input b rest found
  obtain ⟨⟨a, middle⟩, first, second⟩ := Option.bind_eq_some_iff.mp found
  exact Nat.lt_of_lt_of_le (h a _ _ _ second) (scanner.suffix first).length_le

theorem Consumes.orElse {first second : Scanner σ α} (h : first.Consumes) (h' : second.Consumes) :
    (first <|> second).Consumes := by
  intro input a rest found
  change (first.orElse fun _ => second).run input = _ at found
  unfold Scanner.orElse at found
  simp only at found
  split at found
  · next accepted =>
    cases found
    exact h _ _ _ accepted
  · exact h' _ _ _ found

theorem consumes_takeWhile1 (p : σ → Bool) : (takeWhile1 p).Consumes :=
  (consumes_satisfy p).bind _

theorem consumes_one [BEq σ] (s : σ) : (one s).Consumes :=
  (consumes_satisfy _).bind _

theorem consumes_firstOf {scanners : List (Scanner σ α)}
    (h : ∀ scanner ∈ scanners, scanner.Consumes) : (firstOf scanners).Consumes := by
  induction scanners with
  | nil =>
    intro input a rest found
    cases found
  | cons scanner others ih =>
    exact (h scanner List.mem_cons_self).orElse
      (ih fun other member => h other (List.mem_cons_of_mem _ member))

end Scanner

end WikiText
