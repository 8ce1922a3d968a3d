/-!
# Steps that may fail

What a step yields that follows another one, which may have failed.
-/

namespace MediaNaming

section Results

variable {ε α β : Type} {x : Except ε α} {f : α → Except ε β}

@[simp] theorem ok_bind (a : α) (f : α → Except ε β) : (Except.ok a >>= f) = f a := rfl

@[simp] theorem error_bind (error : ε) (f : α → Except ε β) :
    (Except.error error >>= f) = .error error := rfl

theorem bind_eq_ok_iff {b : β} : x >>= f = .ok b ↔ ∃ a, x = .ok a ∧ f a = .ok b := by
  cases x with
  | error error => simp
  | ok a => simp

theorem bind_eq_error_iff {error : ε} :
    x >>= f = .error error ↔ x = .error error ∨ ∃ a, x = .ok a ∧ f a = .error error := by
  cases x with
  | error other => simp
  | ok a => simp

theorem mapError_bind {δ : Type} (g : ε → δ) :
    (x >>= f).mapError g = x.mapError g >>= fun a => (f a).mapError g := by
  cases x <;> rfl

/-- A step succeeds if something can be said of its result. -/
theorem exists_of_toOption_map {g : α → β} {b : β} (h : x.toOption.map g = some b) :
    ∃ a, x = .ok a ∧ g a = b := by
  cases x with
  | error error => cases h
  | ok a => exact ⟨a, rfl, Option.some.inj h⟩

end Results

/-! ## Steps that succeed -/

/-- The step succeeds with a result of which `post` holds. -/
def Yields {ε α : Type} (x : Except ε α) (post : α → Prop) : Prop :=
  ∃ a, x = .ok a ∧ post a

namespace Yields

variable {ε α β : Type} {x : Except ε α} {f : α → Except ε β} {pre : α → Prop} {post : β → Prop}

theorem ok {a : α} (h : pre a) : Yields (Except.ok a : Except ε α) pre :=
  ⟨a, rfl, h⟩

/-- What follows on a step that succeeds may count on what holds of its result. -/
theorem bind (h : Yields x pre) (hf : ∀ a, pre a → Yields (f a) post) : Yields (x >>= f) post := by
  obtain ⟨a, rfl, ha⟩ := h
  exact hf a ha

theorem weaken {weaker : α → Prop} (h : Yields x pre) (hpre : ∀ a, pre a → weaker a) :
    Yields x weaker := by
  obtain ⟨a, hx, ha⟩ := h
  exact ⟨a, hx, hpre a ha⟩

end Yields

end MediaNaming
