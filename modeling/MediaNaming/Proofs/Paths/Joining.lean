import Mathlib.Data.List.Induction
import MediaNaming.Proofs.Paths.Resolution

/-!
# Joining paths

What is joined to a base stands behind it, with a slash between the two if the base does not bring
one. Only an absolute path would drop the base, and no text without slashes is one; so names that
are joined one by one are kept, each of them a piece of what comes out.
-/

namespace MediaNaming.Path

/-! ## Bases -/

section Bases

variable {base child path : String}

theorem join_empty (child : String) : join "" child = child := by
  unfold join
  split
  · rfl
  · exact String.empty_append

/-- What is joined to a base follows on it, if it is not absolute. -/
theorem join_of_relative (h : isAbsolute child = false) :
    join base child =
      base ++ (if base = "" ∨ base.toList.getLast? = some '/' then "" else "/") ++ child := by
  unfold join
  rw [h, if_neg Bool.false_ne_true]
  by_cases hbase : base = "" ∨ base.toList.getLast? = some '/'
  · have hopen : (base.isEmpty || base.toList.getLast? == some '/') = true := by simpa using hbase
    rw [if_pos hbase, if_pos hopen, String.append_empty]
  · have hopen : ¬ (base.isEmpty || base.toList.getLast? == some '/') = true := by
      simpa using hbase
    rw [if_neg hbase, if_neg hopen]

theorem ne_empty_of_split (h : ∀ piece ∈ Text.split '/' path, piece ≠ "") : path ≠ "" := by
  rintro rfl
  exact h "" (by decide) rfl

/-- A path whose pieces all hold something does not end in a slash. -/
theorem getLast?_ne_of_split (h : ∀ piece ∈ Text.split '/' path, piece ≠ "") :
    path.toList.getLast? ≠ some '/' := by
  intro hlast
  obtain ⟨cs, hcs⟩ := List.getLast?_eq_some_iff.mp hlast
  have hsplit : Text.split '/' path = Text.split '/' (String.ofList cs) ++ Text.split '/' "" :=
    Text.split_append_cons (by rw [hcs, String.toList_ofList]; rfl)
  refine h "" ?_ rfl
  rw [hsplit]
  exact List.mem_append_right _ (by decide)

theorem join_of_split (hbase : ∀ piece ∈ Text.split '/' base, piece ≠ "")
    (h : isAbsolute child = false) : join base child = base ++ "/" ++ child := by
  have hclosed : ¬ (base = "" ∨ base.toList.getLast? = some '/') := fun hopen =>
    hopen.elim (ne_empty_of_split hbase) (getLast?_ne_of_split hbase)
  rw [join_of_relative h, if_neg hclosed]

end Bases

/-! ## Pieces -/

section Pieces

variable {pieces : List String}

theorem split_intercalate (hne : pieces ≠ []) (h : ∀ piece ∈ pieces, IsPiece piece) :
    Text.split '/' ("/".intercalate pieces) = pieces :=
  Text.split_slash_intercalate hne fun piece hpiece => (h piece hpiece).slash_not_mem

theorem isAbsolute_intercalate (hne : pieces ≠ []) (h : ∀ piece ∈ pieces, IsPiece piece) :
    isAbsolute ("/".intercalate pieces) = false := by
  refine isAbsolute_of_split ?_
  rw [split_intercalate hne h]
  exact fun piece hpiece => (h piece hpiece).ne_empty

/-- Joining a further piece to pieces that are joined already. -/
theorem join_intercalate (hne : pieces ≠ []) (h : ∀ piece ∈ pieces, IsPiece piece) {name : String}
    (hname : IsPiece name) :
    join ("/".intercalate pieces) name = "/".intercalate (pieces ++ [name]) := by
  have hsplit : ∀ piece ∈ Text.split '/' ("/".intercalate pieces), piece ≠ "" := by
    rw [split_intercalate hne h]
    exact fun piece hpiece => (h piece hpiece).ne_empty
  rw [join_of_split hsplit hname.isAbsolute_eq,
    String.intercalate_append_of_ne_nil hne (List.cons_ne_nil _ _), String.intercalate_singleton]

/-- Joining pieces one by one puts slashes between them, and drops none of them. -/
theorem foldl_join (h : ∀ piece ∈ pieces, IsPiece piece) :
    pieces.foldl join "" = "/".intercalate pieces := by
  induction pieces using List.reverseRecOn with
  | nil => rfl
  | append_singleton pieces name ih =>
    obtain ⟨hpieces, hname⟩ := List.forall_mem_append.mp h
    rw [List.foldl_append, List.foldl_cons, List.foldl_nil, ih hpieces]
    -- The first piece is joined to the empty path, behind which no slash is put.
    cases pieces with
    | nil => exact join_empty name
    | cons piece pieces =>
      exact join_intercalate (List.cons_ne_nil _ _) hpieces (hname name List.mem_cons_self)

end Pieces

end MediaNaming.Path
