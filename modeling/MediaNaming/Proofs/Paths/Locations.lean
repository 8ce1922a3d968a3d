import Mathlib.Data.List.Induction
import MediaNaming.Media.Folder
import MediaNaming.Proofs.Paths.Resolution

/-!
# Parts of locations

Locations are read with slashes and backslashes alike, and what stands between these are their
parts. So the parts of a text are those of its pieces, wherever it is cut at a slash, and those of
a joined path are the parts of its base and then those of what was joined to it.
-/

namespace MediaNaming

/-! ## Normalizing -/

/-- What a character counts for in a location. -/
def slashed (c : Char) : Char :=
  if c = '\\' then '/' else c

/-- Nothing stands behind the slashes at the end. -/
theorem pieces_dropSlashes (cs : List Char) :
    Path.pieces (String.ofList (dropSlashes cs)) = Path.pieces (String.ofList cs) := by
  -- Slashes are dropped from the end, so the last character is split off.
  induction cs using List.reverseRecOn with
  | nil => rfl
  | append_singleton cs c ih =>
    unfold dropSlashes at ih ⊢
    by_cases hc : c = '/'
    · have hchars : (String.ofList (cs ++ [c])).toList =
          (String.ofList cs).toList ++ '/' :: "".toList := by
        rw [hc, String.toList_ofList, String.toList_ofList]
        rfl
      rw [Text.dropTailWhile_append_of _ _ (by simpa using hc), ih, Path.pieces_of_append hchars,
        Path.pieces_empty, List.append_nil]
    · rw [Text.dropTailWhile_append_of_not _ _ (by simpa using hc)]

/-- Neither the slashes at the end nor that of the root make a difference to the parts. -/
theorem locationParts_eq (path : String) :
    locationParts path = Path.pieces (String.ofList (path.toList.map slashed)) := by
  have hslashed : (fun c => if c = '\\' then '/' else c) = slashed := rfl
  have hpieces : locationParts path = Path.pieces (normalizeLocation path) := rfl
  rw [← pieces_dropSlashes, hpieces, normalizeLocation, normalizedChars, hslashed]
  split
  · next hroot =>
    -- The root is left as a slash, and there is nothing on either side of it.
    have hempty : dropSlashes (path.toList.map slashed) = [] := by
      simpa using (Bool.and_eq_true_iff.mp hroot).1
    rw [hempty]
    decide
  · rfl

/-! ## Parts -/

section Parts

variable {path left right name : String}

@[simp] theorem locationParts_empty : locationParts "" = [] := by decide

theorem locationParts_of_append (h : path.toList = left.toList ++ '/' :: right.toList) :
    locationParts path = locationParts left ++ locationParts right := by
  rw [locationParts_eq, locationParts_eq, locationParts_eq]
  refine Path.pieces_of_append ?_
  rw [String.toList_ofList, String.toList_ofList, String.toList_ofList, h, List.map_append,
    List.map_cons]
  rfl

theorem isPiece_of_mem_locationParts {piece : String} (h : piece ∈ locationParts path) :
    Path.IsPiece piece :=
  Path.isPiece_of_mem_pieces h

theorem backslash_not_mem_locationParts {piece : String} (h : piece ∈ locationParts path) :
    '\\' ∉ piece.toList := by
  intro hback
  rw [locationParts_eq] at h
  have hmem := Text.mem_of_mem_split (List.mem_filter.mp h).1 hback
  rw [String.toList_ofList] at hmem
  obtain ⟨c, -, hc⟩ := List.mem_map.mp hmem
  unfold slashed at hc
  split at hc
  · exact absurd hc (by decide)
  · next hne => exact hne hc

/-- A name in which nothing separates is the only part of itself. -/
theorem locationParts_of_isPiece (hpiece : Path.IsPiece name) (hback : '\\' ∉ name.toList) :
    locationParts name = [name] := by
  have hchars : name.toList.map slashed = name.toList := by
    refine (List.map_congr_left fun c hc => ?_).trans (List.map_id _)
    have hne : c ≠ '\\' := fun heq => hback (heq ▸ hc)
    exact if_neg hne
  rw [locationParts_eq, hchars, Path.pieces, String.ofList_toList, hpiece.split_eq]
  simpa using hpiece.ne_empty

theorem locationParts_intercalate (pieces : List String) :
    locationParts ("/".intercalate pieces) = pieces.flatMap locationParts := by
  induction pieces with
  | nil => rfl
  | cons piece pieces ih =>
    cases pieces with
    | nil => rw [String.intercalate_singleton, List.flatMap_singleton]
    | cons next pieces =>
      rw [List.flatMap_cons, ← ih]
      refine locationParts_of_append ?_
      rw [String.intercalate_cons_cons, String.toList_append, String.toList_append,
        List.append_assoc]
      rfl

/-- Backslashes cut the pieces between the slashes further. -/
theorem locationParts_eq_flatMap (path : String) :
    locationParts path = (Text.split '/' path).flatMap locationParts := by
  rw [← locationParts_intercalate, Text.intercalate_split_slash]

theorem locationParts_join {base child : String} (h : Path.isAbsolute child = false) :
    locationParts (Path.join base child) = locationParts base ++ locationParts child :=
  Path.additive_join locationParts_empty locationParts_of_append h

end Parts

/-! ## Paths below folders -/

namespace ImportFolder

variable {folder : ImportFolder} {path : String}

theorem depthAbove?_eq_some_iff {depth : Nat} :
    folder.depthAbove? path = some depth ↔
      folder.parts <+: locationParts path ∧ depth = folder.parts.length := by
  unfold depthAbove?
  split
  · next habove =>
    have hleads : folder.parts <+: locationParts path := by simpa using habove
    simp [hleads, eq_comm]
  · next habove =>
    have hnot : ¬ folder.parts <+: locationParts path := by simpa using habove
    simp [hnot]

theorem relativeDirs?_of_parts {below : List String}
    (h : locationParts path = folder.parts ++ below) :
    folder.relativeDirs? path = some below.dropLast := by
  have hdepth : folder.depthAbove? path = some folder.parts.length :=
    depthAbove?_eq_some_iff.mpr ⟨⟨below, h.symm⟩, rfl⟩
  rw [relativeDirs?, hdepth, h, Option.map_some, List.drop_left]

/-- Behind the folder and the directories below it there is one more part, if there is any. -/
theorem parts_of_depthAbove? {depth : Nat} (h : folder.depthAbove? path = some depth) :
    ∃ dirs last, folder.relativeDirs? path = some dirs ∧
      locationParts path = folder.parts ++ dirs ++ Option.toList last ∧
      (last = none → dirs = []) := by
  obtain ⟨⟨below, hbelow⟩, -⟩ := depthAbove?_eq_some_iff.mp h
  cases below using List.reverseRecOn with
  | nil =>
    -- The path is the folder's own, so it has no last part to leave out.
    exact ⟨[], none, relativeDirs?_of_parts hbelow.symm, by simpa using hbelow.symm, fun _ => rfl⟩
  | append_singleton dirs last =>
    refine ⟨dirs, some last, ?_, by simpa using hbelow.symm, fun hnone => by cases hnone⟩
    rw [relativeDirs?_of_parts hbelow.symm, List.dropLast_concat]

end ImportFolder

end MediaNaming
