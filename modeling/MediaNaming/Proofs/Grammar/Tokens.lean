import MediaNaming.Proofs.Results
import MediaNaming.Script.Parser

/-!
# Runs of tokens

The tokens between two places of a script, seen as the list of their kinds, and what the readers of
single tokens take from the front of a list.
-/

namespace MediaNaming.Grammar

open MediaNaming.Parser

/-! ## Spans -/

/-- The tokens start with ones of the kinds `ks`, and `rest` is what follows these. -/
def Spans (ks : List TokenKind) (tokens rest : List Token) : Prop :=
  ∃ used, tokens = used ++ rest ∧ used.map Token.kind = ks

namespace Spans

variable {ks js : List TokenKind} {k : TokenKind} {tokens middle rest : List Token}

theorem nil (tokens : List Token) : Spans [] tokens tokens :=
  ⟨[], rfl, rfl⟩

theorem cons {token : Token} (h : Spans ks tokens rest) :
    Spans (token.kind :: ks) (token :: tokens) rest := by
  obtain ⟨used, rfl, rfl⟩ := h
  exact ⟨token :: used, rfl, rfl⟩

theorem append (h₁ : Spans ks tokens middle) (h₂ : Spans js middle rest) :
    Spans (ks ++ js) tokens rest := by
  obtain ⟨used₁, rfl, rfl⟩ := h₁
  obtain ⟨used₂, rfl, rfl⟩ := h₂
  exact ⟨used₁ ++ used₂, by simp, by simp⟩

theorem eq_of_nil (h : Spans [] tokens rest) : tokens = rest := by
  obtain ⟨used, rfl, hused⟩ := h
  simp [List.map_eq_nil_iff.mp hused]

theorem uncons (h : Spans (k :: ks) tokens rest) :
    ∃ token middle, tokens = token :: middle ∧ token.kind = k ∧ Spans ks middle rest := by
  obtain ⟨used, rfl, hused⟩ := h
  obtain ⟨token, used, rfl, rfl, rfl⟩ := List.map_eq_cons_iff.mp hused
  exact ⟨token, used ++ rest, rfl, rfl, used, rfl, rfl⟩

theorem split (h : Spans (ks ++ js) tokens rest) :
    ∃ middle, Spans ks tokens middle ∧ Spans js middle rest := by
  obtain ⟨used, rfl, hused⟩ := h
  obtain ⟨used₁, used₂, rfl, rfl, rfl⟩ := List.map_eq_append_iff.mp hused
  exact ⟨used₂ ++ rest, ⟨used₁, by simp, rfl⟩, used₂, rfl, rfl⟩

theorem map_kind (h : Spans ks tokens rest) :
    tokens.map Token.kind = ks ++ rest.map Token.kind := by
  obtain ⟨used, rfl, rfl⟩ := h
  simp

theorem all (tokens : List Token) : Spans (tokens.map Token.kind) tokens [] :=
  ⟨tokens, by simp, rfl⟩

theorem length_le (h : Spans ks tokens rest) : rest.length ≤ tokens.length := by
  obtain ⟨used, rfl, -⟩ := h
  simp

end Spans

/-! ## Single tokens -/

section Single

variable {α : Type} {f : TokenKind → Option α} {kinds : List TokenKind} {tokens : List Token}

theorem spans_of_take? {taken : Taken α tokens} (h : take? f tokens = some taken) :
    ∃ k, f k = some taken.value ∧ Spans [k] tokens taken.rest := by
  cases tokens with
  | nil => simp [take?] at h
  | cons token rest =>
    simp only [take?, Option.map_eq_some_iff] at h
    obtain ⟨value, hvalue, rfl⟩ := h
    exact ⟨token.kind, hvalue, (Spans.nil rest).cons⟩

theorem spans_of_takeOf? {taken : Taken Unit tokens} (h : takeOf? kinds tokens = some taken) :
    ∃ k ∈ kinds, Spans [k] tokens taken.rest := by
  obtain ⟨k, hk, hspans⟩ := spans_of_take? h
  refine ⟨k, ?_, hspans⟩
  split at hk
  · next hmem => simpa using hmem
  · cases hk

/-- What is taken if only one kind will do. -/
theorem spans_of_takeOf?_singleton {k : TokenKind} {taken : Taken Unit tokens}
    (h : takeOf? [k] tokens = some taken) : Spans [k] tokens taken.rest := by
  obtain ⟨j, hj, hspans⟩ := spans_of_takeOf? h
  rwa [List.mem_singleton.mp hj] at hspans

theorem head?_ne_of_takeOf?_singleton {ks : List TokenKind} {k : TokenKind} {rest : List Token}
    (hspans : Spans ks tokens rest) (h : takeOf? [k] tokens = none) : ks.head? ≠ some k := by
  intro hhead
  obtain ⟨js, rfl⟩ := List.head?_eq_some_iff.mp hhead
  obtain ⟨token, middle, rfl, hkind, -⟩ := hspans.uncons
  simp [takeOf?, take?, hkind] at h

theorem take?_cons_of_eq_some {token : Token} {rest : List Token} {value : α}
    (h : f token.kind = some value) :
    take? f (token :: rest) = some ⟨value, rest, Nat.lt_succ_self _⟩ := by
  simp [take?, h]

theorem take?_cons_of_eq_none {token : Token} {rest : List Token} (h : f token.kind = none) :
    take? f (token :: rest) = none := by
  simp [take?, h]

theorem takeOf?_cons_of_mem {token : Token} {rest : List Token} (h : token.kind ∈ kinds) :
    takeOf? kinds (token :: rest) = some ⟨(), rest, Nat.lt_succ_self _⟩ :=
  take?_cons_of_eq_some (by simp [h])

theorem takeOf?_cons_of_not_mem {token : Token} {rest : List Token} (h : token.kind ∉ kinds) :
    takeOf? kinds (token :: rest) = none :=
  take?_cons_of_eq_none (by simp [h])

end Single

end MediaNaming.Grammar
