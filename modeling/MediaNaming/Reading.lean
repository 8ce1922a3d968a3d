/-!
# Reading from the front of a list

What a reader takes from the front of its input, together with the rest. Every reading takes
something, so readers that call one another end.
-/

namespace MediaNaming

/-- A value read from the front of `input`, and what is left: less than there was. -/
structure Taken (α : Type) {τ : Type} (input : List τ) where
  value : α
  rest : List τ
  shorter : rest.length < input.length

namespace Taken

variable {α β τ : Type} {input inner : List τ}

def map (f : α → β) (taken : Taken α input) : Taken β input :=
  ⟨f taken.value, taken.rest, taken.shorter⟩

/-- A reading of the rest of `input` is a reading of `input` itself. -/
def widen (taken : Taken α inner) (h : inner.length ≤ input.length) : Taken α input :=
  ⟨taken.value, taken.rest, Nat.lt_of_lt_of_le taken.shorter h⟩

@[simp] theorem map_value (f : α → β) (taken : Taken α input) :
    (taken.map f).value = f taken.value := rfl

@[simp] theorem map_rest (f : α → β) (taken : Taken α input) :
    (taken.map f).rest = taken.rest := rfl

@[simp] theorem widen_value (taken : Taken α inner) (h : inner.length ≤ input.length) :
    (taken.widen h).value = taken.value := rfl

@[simp] theorem widen_rest (taken : Taken α inner) (h : inner.length ≤ input.length) :
    (taken.widen h).rest = taken.rest := rfl

end Taken

end MediaNaming
