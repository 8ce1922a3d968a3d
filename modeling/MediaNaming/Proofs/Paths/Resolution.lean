import Mathlib.Data.List.TakeDrop
import MediaNaming.Path
import MediaNaming.Proofs.Text.Splitting

/-!
# Resolving paths

What a path leads to when its dots are followed on the text alone, and what a path that is joined
to another one leads to.
-/

namespace MediaNaming.Path

/-! ## Dots -/

/-- The names that do not name a file: the directory itself and the one above it. -/
def IsDots (name : String) : Prop :=
  name = "." ∨ name = ".."

instance (name : String) : Decidable (IsDots name) :=
  inferInstanceAs (Decidable (_ ∨ _))

theorem eq_dot_of_isDots {name : String} (h : IsDots name) : ∀ c ∈ name.toList, c = '.' := by
  intro c hc
  have hdots : c ∈ ['.'] ∨ c ∈ ['.', '.'] := by
    rcases h with rfl | rfl
    · exact .inl hc
    · exact .inr hc
  simpa using hdots

/-! ## Resolving -/

/-- Goes from a directory to what a component names in it; nothing lies above the root. -/
def follow (absolute : Bool) (directory : List String) (component : String) : List String :=
  if component = ".." then
    match directory.getLast? with
    | none => if absolute then [] else [".."]
    | some last => if last = ".." then directory ++ [".."] else directory.dropLast
  else
    directory ++ [component]

/-- The components that are left of a path once those that lead upwards are followed. -/
def resolve (path : String) : List String :=
  (components path).foldl (follow (isAbsolute path)) []

theorem foldl_follow {absolute : Bool} {pieces : List String} (h : ".." ∉ pieces)
    (directory : List String) : pieces.foldl (follow absolute) directory = directory ++ pieces := by
  induction pieces generalizing directory with
  | nil => rw [List.foldl_nil, List.append_nil]
  | cons piece pieces ih =>
    have hpiece : ".." ≠ piece := List.ne_of_not_mem_cons h
    have hpieces : ".." ∉ pieces := List.not_mem_of_not_mem_cons h
    rw [List.foldl_cons, follow, if_neg (Ne.symm hpiece), ih hpieces, List.append_assoc]
    rfl

/-! ## Components -/

@[simp] theorem components_empty : components "" = [] := by decide

/-- A path of pieces between slashes has these as its components. -/
theorem components_of_split {path : String} {pieces : List String}
    (hsplit : Text.split '/' path = pieces)
    (hpieces : ∀ piece ∈ pieces, piece ≠ "" ∧ ¬ IsDots piece) :
    components path = pieces := by
  rw [components, hsplit, List.filter_eq_self]
  intro piece hpiece
  obtain ⟨hne, hdots⟩ := hpieces piece hpiece
  have hdot : piece ≠ "." := fun h => hdots (.inl h)
  simp [hne, hdot]

/-- A path whose pieces all name something does not start at the root. -/
theorem isAbsolute_of_split {path : String} (h : ∀ piece ∈ Text.split '/' path, piece ≠ "") :
    isAbsolute path = false := by
  cases hchars : path.toList with
  | nil =>
    rw [isAbsolute, hchars]
    rfl
  | cons c cs =>
    have hc : c ≠ '/' := by
      rintro rfl
      refine h "" ?_ rfl
      rw [Text.split, hchars, Text.splitChars, if_pos rfl]
      exact List.mem_cons_self
    rw [isAbsolute, hchars]
    simpa using hc

/-! ## Pieces -/

/-- The name is one piece of a path: it is not empty, and no slash is in it. -/
structure IsPiece (name : String) : Prop where
  ne_empty : name ≠ ""
  slash_not_mem : '/' ∉ name.toList

namespace IsPiece

variable {name : String}

theorem split_eq (h : IsPiece name) : Text.split '/' name = [name] :=
  Text.split_of_not_mem h.slash_not_mem

theorem isAbsolute_eq (h : IsPiece name) : isAbsolute name = false :=
  isAbsolute_of_split (by simpa [h.split_eq] using h.ne_empty)

end IsPiece

/-- The pieces between the slashes that hold something. -/
def pieces (path : String) : List String :=
  (Text.split '/' path).filter (· != "")

@[simp] theorem pieces_empty : pieces "" = [] := by decide

theorem isPiece_of_mem_pieces {path piece : String} (h : piece ∈ pieces path) : IsPiece piece := by
  obtain ⟨hsplit, hne⟩ := List.mem_filter.mp h
  exact ⟨by simpa using hne, Text.not_mem_of_mem_split hsplit⟩

theorem pieces_of_append {path left right : String}
    (h : path.toList = left.toList ++ '/' :: right.toList) :
    pieces path = pieces left ++ pieces right := by
  rw [pieces, Text.split_append_cons h, List.filter_append]
  rfl

/-- All the pieces count but single dots. -/
theorem components_eq_filter (path : String) :
    components path = (pieces path).filter (· != ".") := by
  rw [components, pieces, List.filter_filter]
  refine List.filter_congr fun piece _ => ?_
  exact Bool.and_comm _ _

/-! ## File names -/

theorem fileName?_eq_some {path name : String} (h : fileName? path = some name) :
    (components path).getLast? = some name := by
  unfold fileName? at h
  split at h
  · cases h
  · exact h

/-- A file name is one piece of its path, and not the dot that stands for the directory itself. -/
theorem isPiece_of_fileName? {path name : String} (h : fileName? path = some name) :
    IsPiece name ∧ name ≠ "." := by
  have hmem : name ∈ components path := List.mem_of_getLast? (fileName?_eq_some h)
  rw [components_eq_filter] at hmem
  obtain ⟨hpiece, hdot⟩ := List.mem_filter.mp hmem
  exact ⟨isPiece_of_mem_pieces hpiece, by simpa using hdot⟩

theorem slash_not_mem_fileName (path : String) : '/' ∉ (fileName path).toList := by
  unfold fileName
  cases hname : fileName? path with
  | none => exact List.not_mem_nil
  | some name => exact (isPiece_of_fileName? hname).1.slash_not_mem

/-- An extension stands behind the last dot of the name, with something before the dot. -/
theorem eq_append_of_splitExtension {name extension : List Char}
    (h : (splitExtension name).2 = some extension) :
    '.' ∉ extension ∧ ∃ stem, stem ≠ [] ∧ name = stem ++ '.' :: extension := by
  unfold splitExtension at h
  split at h
  · next found dot stem hspan =>
    split at h
    · cases h
    · next hstem =>
      cases h
      -- The dot is looked for from the end, so the extension was found backwards.
      rw [List.span_eq_takeWhile_dropWhile, Prod.mk.injEq] at hspan
      obtain ⟨hfound, hrest⟩ := hspan
      obtain rfl : dot = '.' := by
        have hhead := List.head?_dropWhile_not (· != '.') name.reverse
        rw [hrest] at hhead
        simpa using hhead
      have hname : name.reverse = found ++ '.' :: stem := by
        rw [← hfound, ← hrest, List.takeWhile_append_dropWhile]
      constructor
      · rw [List.mem_reverse, ← hfound]
        intro hmem
        exact absurd (List.all_eq_true.mp List.all_takeWhile _ hmem) (by decide)
      · refine ⟨stem.reverse, by simpa using hstem, ?_⟩
        rw [← List.reverse_reverse name, hname]
        simp
  · cases h

/-- An extension is part of a file name, so no slash is in it. -/
theorem slash_not_mem_extension (path : String) : '/' ∉ (extension path).toList := by
  unfold extension
  split
  · next found hfound =>
    rw [String.toList_ofList]
    intro hmem
    rcases List.mem_cons.mp hmem with heq | hmem
    · exact absurd heq (by decide)
    · obtain ⟨-, stem, -, hname⟩ := eq_append_of_splitExtension hfound
      refine slash_not_mem_fileName path ?_
      rw [hname]
      exact List.mem_append_right _ (List.mem_cons_of_mem _ hmem)
  · exact List.not_mem_nil

/-! ## Joining -/

section Join

variable {base child : String}

/--
What is additive where a text is cut at a slash is so for joined paths, though a slash is put
neither behind an empty base nor behind one that ends in a slash.
-/
theorem additive_join {α : Type} {f : String → List α} (hempty : f "" = [])
    (happend : ∀ {path left right : String}, path.toList = left.toList ++ '/' :: right.toList →
      f path = f left ++ f right)
    (h : isAbsolute child = false) : f (join base child) = f base ++ f child := by
  unfold join
  rw [h, if_neg Bool.false_ne_true]
  split
  · next hbase =>
    rw [Bool.or_eq_true] at hbase
    rcases hbase with hbase | hslash
    · rw [String.isEmpty_iff.mp hbase, String.empty_append, hempty, List.nil_append]
    · -- The slash at the end of the base is the one between base and child.
      obtain ⟨cs, hcs⟩ := List.getLast?_eq_some_iff.mp (by simpa using hslash)
      have hbase : f base = f (String.ofList cs) ++ f "" :=
        happend (by rw [hcs, String.toList_ofList]; rfl)
      have hjoined : f (base ++ child) = f (String.ofList cs) ++ f child :=
        happend (by simp [hcs])
      rw [hjoined, hbase, hempty, List.append_nil]
  · exact happend (by simp)

theorem components_of_append {path left right : String}
    (h : path.toList = left.toList ++ '/' :: right.toList) :
    components path = components left ++ components right := by
  rw [components_eq_filter, pieces_of_append h, List.filter_append, ← components_eq_filter,
    ← components_eq_filter]

theorem components_join (h : isAbsolute child = false) :
    components (join base child) = components base ++ components child :=
  additive_join components_empty components_of_append h

theorem isAbsolute_join (h : isAbsolute child = false) :
    isAbsolute (join base child) = isAbsolute base := by
  cases hchars : base.toList with
  | nil =>
    have hbase : base = "" := String.toList_eq_nil_iff.mp hchars
    rw [hbase, join, h, if_neg Bool.false_ne_true, if_pos (by rfl), String.empty_append, h]
    rfl
  | cons c cs =>
    have hhead : ∀ rest : String, isAbsolute (base ++ rest) = isAbsolute base := by
      intro rest
      rw [isAbsolute, isAbsolute, String.toList_append, hchars]
      rfl
    unfold join
    rw [h, if_neg Bool.false_ne_true]
    split
    · exact hhead child
    · rw [String.append_assoc]
      exact hhead _

/-- Where a path leads that goes on below another one. -/
theorem resolve_join (habsolute : isAbsolute child = false) (hdots : ".." ∉ components child) :
    resolve (join base child) = resolve base ++ components child := by
  rw [resolve, components_join habsolute, isAbsolute_join habsolute, List.foldl_append,
    foldl_follow hdots]
  rfl

end Join

end MediaNaming.Path
