import MediaNaming.Proofs.Paths.Resolution

/-!
# File names and their extensions

What the file name of a joined path is, which names have no extension, and that a name which ends in
the extension of another one has that extension, whatever dots stand before it.
-/

namespace MediaNaming.Path

/-! ## Cutting names -/

section Cutting

variable {stem name extension : List Char}

/-- A name is cut at its last dot, unless nothing stands before it. -/
theorem splitExtension_append (hstem : stem ≠ []) (hdot : '.' ∉ extension) :
    splitExtension (stem ++ '.' :: extension) = (stem, some extension) := by
  have hall : ∀ c ∈ extension.reverse, (c != '.') = true := by
    intro c hc
    have hne : c ≠ '.' := fun heq => hdot (heq ▸ List.mem_reverse.mp hc)
    simpa using hne
  have hspan : (stem ++ '.' :: extension).reverse.span (· != '.') =
      (extension.reverse, '.' :: stem.reverse) := by
    have hreverse : (stem ++ '.' :: extension).reverse =
        extension.reverse ++ '.' :: stem.reverse := by simp
    have hrest : ∀ c ∈ ('.' :: stem.reverse).head?, (c != '.') = false := by simp
    rw [hreverse, List.span_eq_takeWhile_dropWhile, Text.takeWhile_append_of_all hall hrest,
      Text.dropWhile_append_of_all hall hrest]
  have hne : stem.reverse.isEmpty = false := by simpa using hstem
  rw [splitExtension, hspan]
  simp [hne]

/-- A name has no extension just when no dot stands behind its first character. -/
theorem splitExtension_eq_none_iff : (splitExtension name).2 = none ↔ '.' ∉ name.tail := by
  constructor
  · intro hnone hmem
    -- The dot that stands last is found from the end.
    obtain ⟨back, front, hreverse, hback⟩ :=
      List.eq_append_cons_of_mem (List.mem_reverse.mpr hmem)
    cases name with
    | nil => cases hmem
    | cons c cs =>
      have hname : c :: cs = (c :: front.reverse) ++ '.' :: back.reverse := by
        have hcs : cs = (back ++ '.' :: front).reverse := by
          rw [← hreverse, List.tail_cons, List.reverse_reverse]
        rw [hcs]
        simp
      have hdot : '.' ∉ back.reverse := fun h => hback (List.mem_reverse.mp h)
      rw [hname, splitExtension_append (List.cons_ne_nil _ _) hdot] at hnone
      cases hnone
  · intro hdot
    cases hfound : (splitExtension name).2 with
    | none => rfl
    | some extension =>
      obtain ⟨-, stem, hstem, hname⟩ := eq_append_of_splitExtension hfound
      refine absurd ?_ hdot
      rw [hname, List.tail_append_of_ne_nil hstem]
      exact List.mem_append_right _ List.mem_cons_self

end Cutting

/-! ## Extensions -/

section Extensions

variable {path other stem : String}

/-- An extension is empty, or a dot and what has no dots. -/
theorem extension_eq_empty_or (path : String) :
    extension path = "" ∨
      ∃ letters, extension path = String.ofList ('.' :: letters) ∧ '.' ∉ letters := by
  unfold extension
  split
  · next letters hletters =>
    exact .inr ⟨letters, rfl, (eq_append_of_splitExtension hletters).1⟩
  · exact .inl rfl

theorem extension_eq_empty_iff (path : String) :
    extension path = "" ↔ '.' ∉ (fileName path).toList.tail := by
  rw [← splitExtension_eq_none_iff]
  unfold extension
  split
  · next letters hletters =>
    rw [hletters]
    simp
  · next hnone => simp [hnone]

/-- A file name that ends in an extension, and does not start with it, has it. -/
theorem extension_of_fileName (hname : fileName path = stem ++ extension other)
    (hstem : stem ≠ "") (hextension : extension other ≠ "") :
    extension path = extension other := by
  obtain hempty | ⟨letters, hletters, hdot⟩ := extension_eq_empty_or other
  · exact absurd hempty hextension
  · have hchars : (fileName path).toList = stem.toList ++ '.' :: letters := by
      rw [hname, hletters, String.toList_append, String.toList_ofList]
    have hne : stem.toList ≠ [] := by simpa using hstem
    rw [hletters]
    unfold extension
    rw [hchars, splitExtension_append hne hdot]

end Extensions

/-! ## Names in paths -/

/-- The file name of a path is that of what is joined to another one, if this has components. -/
theorem fileName_join {base child : String} (habsolute : isAbsolute child = false)
    (hne : components child ≠ []) : fileName (join base child) = fileName child := by
  unfold fileName fileName?
  rw [components_join habsolute, List.getLast?_append, List.getLast?_eq_some_getLast hne,
    Option.some_or]

namespace IsPiece

variable {name : String}

theorem components_eq (h : IsPiece name) (hdot : name ≠ ".") : components name = [name] := by
  rw [components, h.split_eq]
  simp [h.ne_empty, hdot]

theorem fileName_eq (h : IsPiece name) (hdot : name ≠ ".") (hup : name ≠ "..") :
    fileName name = name := by
  unfold fileName fileName?
  rw [h.components_eq hdot, List.getLast?_singleton]
  split
  · next heq => exact absurd (Option.some.inj heq) hup
  · rfl

/-- What is joined to a path last gives it its file name, unless it is the single dot. -/
theorem fileName_join_join (h : IsPiece name) (hdot : name ≠ ".") {middle : String}
    (hmiddle : isAbsolute middle = false) (base : String) :
    fileName (join base (join middle name)) = fileName name := by
  have hne : components name ≠ [] := by simp [h.components_eq hdot]
  have hrelative : isAbsolute (join middle name) = false := by
    rw [isAbsolute_join h.isAbsolute_eq, hmiddle]
  rw [fileName_join hrelative, fileName_join h.isAbsolute_eq hne]
  rw [components_join h.isAbsolute_eq]
  simp [hne]

/-- A single piece has no extension if no dot is behind its first character, or if it is dots. -/
theorem extension_eq_empty_iff (h : IsPiece name) :
    extension name = "" ↔ name = ".." ∨ '.' ∉ name.toList.tail := by
  by_cases hdots : IsDots name
  · -- Both names lead to directories.
    rcases hdots with rfl | rfl <;> decide
  · have hdot : name ≠ "." := fun heq => hdots (.inl heq)
    have hup : name ≠ ".." := fun heq => hdots (.inr heq)
    rw [Path.extension_eq_empty_iff, h.fileName_eq hdot hup]
    simp [hup]

end IsPiece

/-- The text names a file: it is one component of a path, and no dots. -/
structure IsName (name : String) : Prop where
  ne_empty : name ≠ ""
  slash_not_mem : '/' ∉ name.toList
  not_isDots : ¬ IsDots name

namespace IsName

variable {name : String}

theorem isPiece (h : IsName name) : IsPiece name :=
  ⟨h.ne_empty, h.slash_not_mem⟩

theorem ne_dot (h : IsName name) : name ≠ "." :=
  fun heq => h.not_isDots (.inl heq)

theorem fileName_eq (h : IsName name) : fileName name = name :=
  h.isPiece.fileName_eq h.ne_dot fun heq => h.not_isDots (.inr heq)

end IsName

end MediaNaming.Path
