/-!
# Traced values

A value together with the events that were noted while it was computed, in order. The type of events
is a parameter: the cleaner notes diagnostics and log events, and a proof may note whatever it wants
to observe, such as the calls made to a function that is passed in.
-/

namespace WikiText

/-- A value and the events noted on the way to it, first one first. -/
structure Traced (ε : Type) (α : Type) where
  /-- The value computed. -/
  value : α
  /-- The events noted, in order. -/
  trace : List ε
  deriving DecidableEq, Repr

namespace Traced

variable {ε ζ α β : Type}

instance : Monad (Traced ε) where
  pure a := ⟨a, []⟩
  bind x f :=
    let y := f x.value
    ⟨y.value, x.trace ++ y.trace⟩

/-- Notes one event. -/
def note (event : ε) : Traced ε Unit :=
  ⟨(), [event]⟩

/-- The same value with a function applied to every event. -/
def mapTrace (f : ε → ζ) (x : Traced ε α) : Traced ζ α :=
  ⟨x.value, x.trace.map f⟩

/-- Applies a traced function along a list, first element first. -/
def traverse (f : α → Traced ε β) : List α → Traced ε (List β)
  | [] => pure []
  | a :: rest => do
    let b ← f a
    let bs ← traverse f rest
    return b :: bs

@[simp]
theorem value_pure (a : α) : (pure a : Traced ε α).value = a := rfl

@[simp]
theorem trace_pure (a : α) : (pure a : Traced ε α).trace = [] := rfl

@[simp]
theorem value_bind (x : Traced ε α) (f : α → Traced ε β) :
    (x >>= f).value = (f x.value).value := rfl

@[simp]
theorem trace_bind (x : Traced ε α) (f : α → Traced ε β) :
    (x >>= f).trace = x.trace ++ (f x.value).trace := rfl

theorem value_traverse (f : α → Traced ε β) (items : List α) :
    (traverse f items).value = items.map fun a => (f a).value := by
  induction items with
  | nil => rfl
  | cons a rest ih => simp [traverse, ih]

theorem trace_traverse (f : α → Traced ε β) (items : List α) :
    (traverse f items).trace = items.flatMap fun a => (f a).trace := by
  induction items with
  | nil => rfl
  | cons a rest ih => simp [traverse, ih]

theorem length_traverse (f : α → Traced ε β) (items : List α) :
    (traverse f items).value.length = items.length := by
  rw [value_traverse, List.length_map]

end Traced

end WikiText
