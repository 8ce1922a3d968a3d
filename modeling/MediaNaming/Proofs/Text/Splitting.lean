import MediaNaming.Text.Search

/-!
# Splitting and joining

How the pieces of a text come about, and which texts are the pieces of what they are joined to; and
where a text parts whose first characters all have a property.
-/

namespace MediaNaming.Text

/-! ## Lists of characters -/

section Chars

variable {separator : Char} {cs : List Char}

theorem splitChars_eq_splitOn (separator : Char) (cs : List Char) :
    splitChars separator cs = cs.splitOn separator := by
  induction cs with
  | nil => rfl
  | cons c cs ih =>
    rw [List.splitOn_cons_eq_if_modifyHead, splitChars, ih]
    by_cases hc : c = separator
    · simp [hc]
    · simp only [hc, if_false, beq_iff_eq]
      cases hpieces : cs.splitOn separator with
      | nil => exact absurd hpieces (List.splitOn_ne_nil _ _)
      | cons piece pieces => rfl

theorem splitChars_append_cons (cs ds : List Char) :
    splitChars separator (cs ++ separator :: ds) =
      splitChars separator cs ++ splitChars separator ds := by
  rw [splitChars_eq_splitOn, splitChars_eq_splitOn, splitChars_eq_splitOn]
  exact List.splitOn_append_cons_self cs ds

theorem splitChars_of_not_mem (h : separator ∉ cs) : splitChars separator cs = [cs] := by
  rw [splitChars_eq_splitOn]
  exact List.splitOn_eq_singleton h

/-- There is one piece more than there are separators. -/
theorem length_splitChars (separator : Char) (cs : List Char) :
    (splitChars separator cs).length = cs.count separator + 1 := by
  induction cs with
  | nil => rfl
  | cons c cs ih =>
    rw [splitChars]
    by_cases hc : c = separator
    · rw [if_pos hc, List.length_cons, ih, hc, List.count_cons_self]
    · rw [if_neg hc, List.count_cons_of_ne hc]
      cases hpieces : splitChars separator cs with
      | nil => exact absurd hpieces (splitChars_ne_nil separator cs)
      | cons piece pieces =>
        rw [hpieces] at ih
        exact ih

theorem not_mem_of_mem_splitChars {piece : List Char} (h : piece ∈ splitChars separator cs) :
    separator ∉ piece := by
  induction cs generalizing piece with
  | nil =>
    rw [splitChars, List.mem_singleton] at h
    rw [h]
    exact List.not_mem_nil
  | cons c cs ih =>
    rw [splitChars] at h
    by_cases hc : c = separator
    · rw [if_pos hc] at h
      rcases List.mem_cons.mp h with rfl | h
      · exact List.not_mem_nil
      · exact ih h
    · rw [if_neg hc] at h
      cases hpieces : splitChars separator cs with
      | nil => exact absurd hpieces (splitChars_ne_nil separator cs)
      | cons first pieces =>
        rw [hpieces] at h ih
        rcases List.mem_cons.mp h with rfl | h
        · intro hmem
          rcases List.mem_cons.mp hmem with heq | hmem
          · exact hc heq.symm
          · exact ih List.mem_cons_self hmem
        · exact ih (List.mem_cons_of_mem _ h)

/-- Splitting brings in no characters. -/
theorem subset_of_mem_splitChars {piece : List Char} (h : piece ∈ splitChars separator cs) :
    piece ⊆ cs := by
  induction cs generalizing piece with
  | nil =>
    rw [splitChars, List.mem_singleton] at h
    rw [h]
    exact List.Subset.refl _
  | cons c cs ih =>
    rw [splitChars] at h
    by_cases hc : c = separator
    · rw [if_pos hc] at h
      rcases List.mem_cons.mp h with rfl | h
      · exact List.nil_subset _
      · exact List.subset_cons_of_subset c (ih h)
    · rw [if_neg hc] at h
      cases hpieces : splitChars separator cs with
      | nil => exact absurd hpieces (splitChars_ne_nil separator cs)
      | cons first pieces =>
        rw [hpieces] at h ih
        rcases List.mem_cons.mp h with rfl | h
        · exact List.cons_subset_cons c (ih List.mem_cons_self)
        · exact List.subset_cons_of_subset c (ih (List.mem_cons_of_mem _ h))

end Chars

/-! ## Prefixes -/

section Prefixes

variable {p : Char → Bool} {cs ds rest more : List Char}

theorem takeWhile_append_of_all (hall : ∀ c ∈ cs, p c = true)
    (hrest : ∀ c ∈ rest.head?, p c = false) : (cs ++ rest).takeWhile p = cs := by
  rw [List.takeWhile_append_of_pos hall]
  cases rest with
  | nil => simp
  | cons c rest => rw [List.takeWhile_cons_of_neg (by simp [hrest c rfl]), List.append_nil]

theorem dropWhile_append_of_all (hall : ∀ c ∈ cs, p c = true)
    (hrest : ∀ c ∈ rest.head?, p c = false) : (cs ++ rest).dropWhile p = rest := by
  rw [List.dropWhile_append_of_pos hall]
  cases rest with
  | nil => rfl
  | cons c rest => rw [List.dropWhile_cons_of_neg (by simp [hrest c rfl])]

/-- Where the characters behind a text do not have `p`, no more of them are taken. -/
theorem takeWhile_append_of_stop (hrest : ∀ c ∈ rest.head?, p c = false) :
    (cs ++ rest).takeWhile p = cs.takeWhile p := by
  induction cs with
  | nil => exact takeWhile_append_of_all (fun _ hc => absurd hc List.not_mem_nil) hrest
  | cons c cs ih => rw [List.cons_append, List.takeWhile_cons, List.takeWhile_cons, ih]

theorem dropWhile_append_of_stop (hrest : ∀ c ∈ rest.head?, p c = false) :
    (cs ++ rest).dropWhile p = cs.dropWhile p ++ rest := by
  induction cs with
  | nil => exact dropWhile_append_of_all (fun _ hc => absurd hc List.not_mem_nil) hrest
  | cons c cs ih =>
    rw [List.cons_append, List.dropWhile_cons, List.dropWhile_cons, ih]
    split <;> rfl

/-- A text parts in one way only into characters that have `p` and a rest that starts with none. -/
theorem append_inj_of_all (hcs : ∀ c ∈ cs, p c = true) (hds : ∀ c ∈ ds, p c = true)
    (hrest : ∀ c ∈ rest.head?, p c = false) (hmore : ∀ c ∈ more.head?, p c = false)
    (h : cs ++ rest = ds ++ more) : cs = ds ∧ rest = more := by
  constructor
  · rw [← takeWhile_append_of_all hcs hrest, h, takeWhile_append_of_all hds hmore]
  · rw [← dropWhile_append_of_all hcs hrest, h, dropWhile_append_of_all hds hmore]

end Prefixes

/-! ## Texts -/

section Texts

variable {separator : Char} {text : String}

theorem not_mem_of_mem_split {piece : String} (h : piece ∈ split separator text) :
    separator ∉ piece.toList := by
  obtain ⟨cs, hcs, rfl⟩ := List.mem_map.mp h
  rw [String.toList_ofList]
  exact not_mem_of_mem_splitChars hcs

theorem mem_of_mem_split {piece : String} (h : piece ∈ split separator text) {c : Char}
    (hc : c ∈ piece.toList) : c ∈ text.toList := by
  obtain ⟨cs, hcs, rfl⟩ := List.mem_map.mp h
  rw [String.toList_ofList] at hc
  exact subset_of_mem_splitChars hcs hc

theorem split_of_not_mem (h : separator ∉ text.toList) : split separator text = [text] := by
  rw [split, splitChars_of_not_mem h, List.map_singleton, String.ofList_toList]

theorem split_append_cons {left right : String}
    (h : text.toList = left.toList ++ separator :: right.toList) :
    split separator text = split separator left ++ split separator right := by
  rw [split, h, splitChars_append_cons, List.map_append]
  rfl

/-- The pieces between the slashes of a text, with slashes between them, are the text. -/
theorem intercalate_split_slash (text : String) : "/".intercalate (split '/' text) = text := by
  have hslash : "/".toList = ['/'] := by decide
  rw [← String.toList_inj, String.toList_intercalate, hslash, split, List.map_map]
  simpa [Function.comp_def] using intercalate_splitChars '/' text.toList

/-- Texts without slashes are the pieces of what they are joined to by slashes. -/
theorem split_slash_intercalate {pieces : List String} (hne : pieces ≠ [])
    (h : ∀ piece ∈ pieces, '/' ∉ piece.toList) : split '/' ("/".intercalate pieces) = pieces := by
  have hslash : "/".toList = ['/'] := by decide
  have hchars : ∀ cs ∈ pieces.map String.toList, '/' ∉ cs := by
    intro cs hcs
    obtain ⟨piece, hpiece, rfl⟩ := List.mem_map.mp hcs
    exact h piece hpiece
  rw [split, String.toList_intercalate, hslash, splitChars_eq_splitOn,
    List.splitOn_intercalate '/' hchars (by simpa using hne), List.map_map]
  simp

end Texts

end MediaNaming.Text
