import WikiText.Trace

/-!
# Traced values as a monad

Values with the events noted on the way to them obey the monad laws: a step that notes nothing may be
left out, and steps may be grouped in any way.
-/

namespace WikiText.Traced

variable {ε α β : Type}

theorem ext {x y : Traced ε α} (hvalue : x.value = y.value) (htrace : x.trace = y.trace) :
    x = y := by
  cases x
  cases y
  simp_all

instance : LawfulMonad (Traced ε) :=
  LawfulMonad.mk' (Traced ε)
    (fun x => ext rfl (by show x.trace ++ [] = x.trace; simp))
    (fun a f => ext rfl (by simp))
    (fun x f g => ext rfl (by simp))

@[simp]
theorem value_map (f : α → β) (x : Traced ε α) : (f <$> x).value = f x.value := rfl

/-- Functions that are the same on all items note the same for a list of them. -/
theorem traverse_congr {f g : α → Traced ε β} {items : List α} (h : ∀ a ∈ items, f a = g a) :
    traverse f items = traverse g items := by
  induction items with
  | nil => rfl
  | cons a rest ih =>
    rw [traverse, h a List.mem_cons_self, ih fun b hb => h b (List.mem_cons_of_mem _ hb)]
    rfl

/-- The images of items are traversed as the items are. -/
theorem traverse_map {γ : Type} (f : β → Traced ε γ) (g : α → β) (items : List α) :
    traverse f (items.map g) = traverse (f ∘ g) items := by
  induction items with
  | nil => rfl
  | cons a rest ih =>
    rw [List.map_cons, traverse, ih]
    rfl

end WikiText.Traced
