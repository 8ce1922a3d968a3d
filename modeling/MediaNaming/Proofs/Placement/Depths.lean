import MediaNaming.Proofs.Placement.Folders

/-!
# Depths of folders

The folders above a file lie above one another, so how deep one lies tells its location. Where a
file is now depends on the deepest folders alone: neither the order of the list nor a folder that
another one lies below has a say in it.
-/

namespace MediaNaming

namespace Placement

variable {path : String} {folder other added : ImportFolder}
  {folders others before after : List ImportFolder}

/-! ## Locations of folders -/

/-- Of two folders above a path one lies above the other, if they do not lie at the same place. -/
theorem prefix_or_prefix_of_isAbove (hfolder : isAbove folder path = true)
    (hother : isAbove other path = true) :
    folder.parts <+: other.parts ∨ other.parts <+: folder.parts :=
  List.prefix_or_prefix_of_prefix (isAbove_iff.mp hfolder) (isAbove_iff.mp hother)

theorem parts_eq_of_length_eq (hfolder : isAbove folder path = true)
    (hother : isAbove other path = true) (hlength : folder.parts.length = other.parts.length) :
    folder.parts = other.parts := by
  rcases prefix_or_prefix_of_isAbove hfolder hother with hbelow | habove
  · exact hbelow.eq_of_length hlength
  · exact (habove.eq_of_length hlength.symm).symm

/-! ## Folders as deep as others -/

/-- Below each of the folders that are above the path, or where it is, lies one of the others. -/
def ReachAsDeep (path : String) (folders others : List ImportFolder) : Prop :=
  ∀ folder ∈ folders, isAbove folder path = true →
    ∃ other ∈ others, isAbove other path = true ∧ folder.parts.length ≤ other.parts.length

theorem ReachAsDeep.of_subset (h : folders ⊆ others) : ReachAsDeep path folders others :=
  fun folder hmem habove => ⟨folder, h hmem, habove, Nat.le_refl _⟩

theorem ReachAsDeep.exists_deepest (h : ReachAsDeep path folders others)
    (hdeepest : deepestAbove? path folders = some folder) :
    ∃ other, deepestAbove? path others = some other ∧
      folder.parts.length ≤ other.parts.length := by
  have hfolder := isDeepestAbove_of_deepestAbove? hdeepest
  obtain ⟨cover, hcover, habove, hlength⟩ := h folder hfolder.mem hfolder.above
  cases hothers : deepestAbove? path others with
  | none =>
    rw [deepestAbove?_eq_none_iff.mp hothers cover hcover] at habove
    cases habove
  | some other =>
    have hother := isDeepestAbove_of_deepestAbove? hothers
    exact ⟨other, rfl, Nat.le_trans hlength (hother.length_le hcover habove)⟩

/-- Where each of two lists reaches as deep as the other, their deepest folders lie together. -/
theorem map_parts_deepestAbove? (h : ReachAsDeep path folders others)
    (hback : ReachAsDeep path others folders) :
    (deepestAbove? path folders).map ImportFolder.parts =
      (deepestAbove? path others).map ImportFolder.parts := by
  cases hfolders : deepestAbove? path folders with
  | none =>
    cases hothers : deepestAbove? path others with
    | none => rfl
    | some other =>
      obtain ⟨folder, hfolder, -⟩ := hback.exists_deepest hothers
      rw [hfolder] at hfolders
      cases hfolders
  | some folder =>
    obtain ⟨other, hother, hle⟩ := h.exists_deepest hfolders
    obtain ⟨found, hfound, hge⟩ := hback.exists_deepest hother
    cases hfolders.symm.trans hfound
    -- Neither is deeper than the other, and one depth is one place.
    have hparts : folder.parts = other.parts :=
      parts_eq_of_length_eq (isDeepestAbove_of_deepestAbove? hfolders).above
        (isDeepestAbove_of_deepestAbove? hother).above (Nat.le_antisymm hle hge)
    rw [hother, Option.map_some, Option.map_some, hparts]

/-! ## Segments -/

theorem currentSegments_of_deepest (h : deepestAbove? path folders = some folder) :
    currentSegments folders path =
      ((locationParts path).drop folder.parts.length).dropLast := by
  have habove := isAbove_iff.mp (isDeepestAbove_of_deepestAbove? h).above
  rw [currentSegments, h]
  simp [ImportFolder.relativeDirs?, ImportFolder.depthAbove?, habove]

theorem currentSegments_of_none (h : deepestAbove? path folders = none) :
    currentSegments folders path = [] := by
  rw [currentSegments, h]

/-- Which of the deepest folders is found makes no difference to the segments. -/
theorem currentSegments_congr
    (h : (deepestAbove? path folders).map ImportFolder.parts =
      (deepestAbove? path others).map ImportFolder.parts) :
    currentSegments folders path = currentSegments others path := by
  cases hfolders : deepestAbove? path folders with
  | none =>
    rw [hfolders] at h
    have hothers : deepestAbove? path others = none := Option.map_eq_none_iff.mp h.symm
    rw [currentSegments_of_none hfolders, currentSegments_of_none hothers]
  | some folder =>
    rw [hfolders] at h
    obtain ⟨other, hothers, hparts⟩ := Option.map_eq_some_iff.mp h.symm
    rw [currentSegments_of_deepest hfolders, currentSegments_of_deepest hothers, hparts]

/-! ## Folders that come first or last -/

/-- Of the deepest folders it is the last one that is found. -/
theorem deepestAbove?_eq_some_iff :
    deepestAbove? path folders = some folder ↔ IsDeepestAbove path folders folder := by
  refine ⟨isDeepestAbove_of_deepestAbove?, ?_⟩
  rintro ⟨habove, before, after, rfl, hbefore, hafter⟩
  -- The list is searched from its end, so the folders before the deepest one are met after it.
  induction before with
  | nil =>
    rw [List.nil_append, deepestAbove?]
    cases hrest : deepestAbove? path after with
    | none => simp [habove]
    | some deepest =>
      have hdeepest := isDeepestAbove_of_deepestAbove? hrest
      have hlength := hafter deepest hdeepest.mem hdeepest.above
      simp [habove, hlength]
  | cons first before ih =>
    obtain ⟨hfirst, hbefore⟩ := List.forall_mem_cons.mp hbefore
    rw [List.cons_append, deepestAbove?, ih hbefore]
    dsimp only
    refine if_neg fun hdeeper => ?_
    simp only [Bool.and_eq_true, decide_eq_true_eq] at hdeeper
    exact Nat.not_lt.mpr (hfirst hdeeper.1) hdeeper.2

/-- What holds of the folders of a list and of one more holds wherever that is put. -/
theorem forall_mem_insert {p : ImportFolder → Prop} (hadded : p added)
    (h : ∀ other ∈ before ++ after, p other) : ∀ other ∈ before ++ added :: after, p other := by
  intro other hmem
  rcases List.mem_cons.mp (List.perm_middle.mem_iff.mp hmem) with rfl | hmem
  · exact hadded
  · exact h other hmem

/-- A folder less deep does not come before the deepest one, wherever it is put. -/
theorem IsDeepestAbove.insert (h : IsDeepestAbove path (before ++ after) folder)
    (hadded : isAbove added path = true → added.parts.length < folder.parts.length) :
    IsDeepestAbove path (before ++ added :: after) folder := by
  obtain ⟨habove, earlier, later, hsplit, hearlier, hlater⟩ := h
  have hle : isAbove added path = true → added.parts.length ≤ folder.parts.length :=
    fun habove => Nat.le_of_lt (hadded habove)
  refine ⟨habove, ?_⟩
  rcases List.append_eq_append_iff.mp hsplit with ⟨between, rfl, rfl⟩ | ⟨between, rfl, hrest⟩
  · exact ⟨before ++ added :: between, later, by simp, forall_mem_insert hle hearlier, hlater⟩
  · -- The folder is put behind the deepest one, or just before it.
    rcases List.cons_eq_append_iff.mp hrest with ⟨rfl, rfl⟩ | ⟨between, rfl, rfl⟩
    · rw [List.append_nil]
      refine ⟨earlier ++ [added], later, by simp, ?_, hlater⟩
      exact forall_mem_insert hle (by rwa [List.append_nil])
    · exact ⟨earlier, between ++ added :: after, by simp, hearlier,
        forall_mem_insert hadded hlater⟩

/-- A folder makes no difference if it is not above the path or another one lies below it. -/
theorem deepestAbove?_insert
    (h : isAbove added path = true → ∃ deeper ∈ before ++ after,
      isAbove deeper path = true ∧ added.parts.length < deeper.parts.length) :
    deepestAbove? path (before ++ added :: after) = deepestAbove? path (before ++ after) := by
  cases hdeepest : deepestAbove? path (before ++ after) with
  | none =>
    rw [deepestAbove?_eq_none_iff] at hdeepest ⊢
    refine forall_mem_insert ?_ hdeepest
    refine Bool.eq_false_iff.mpr fun hadded => ?_
    obtain ⟨deeper, hmem, habove, -⟩ := h hadded
    rw [hdeepest deeper hmem] at habove
    cases habove
  | some folder =>
    rw [deepestAbove?_eq_some_iff] at hdeepest ⊢
    refine hdeepest.insert fun hadded => ?_
    obtain ⟨deeper, hmem, habove, hlength⟩ := h hadded
    exact Nat.lt_of_lt_of_le hlength (hdeepest.length_le hmem habove)

theorem currentSegments_insert
    (h : isAbove added path = true → ∃ deeper ∈ before ++ after,
      isAbove deeper path = true ∧ added.parts.length < deeper.parts.length) :
    currentSegments (before ++ added :: after) path = currentSegments (before ++ after) path := by
  unfold currentSegments
  rw [deepestAbove?_insert h]

theorem currentDestination?_insert
    (h : isAbove added path = true → ∃ deeper ∈ before ++ after, deeper.isDestination = true ∧
      isAbove deeper path = true ∧ added.parts.length < deeper.parts.length) :
    currentDestination? (before ++ added :: after) path =
      currentDestination? (before ++ after) path := by
  unfold currentDestination?
  rw [List.filter_append, List.filter_append]
  cases hadded : added.isDestination with
  | false => rw [List.filter_cons_of_neg (by simp [hadded])]
  | true =>
    rw [List.filter_cons_of_pos hadded]
    refine deepestAbove?_insert fun habove => ?_
    obtain ⟨deeper, hmem, hdestination, hdeeper⟩ := h habove
    rw [← List.filter_append]
    exact ⟨deeper, List.mem_filter.mpr ⟨hmem, hdestination⟩, hdeeper⟩

/-! ## Lists in another order -/

theorem map_parts_deepestAbove?_of_perm (h : folders.Perm others) :
    (deepestAbove? path folders).map ImportFolder.parts =
      (deepestAbove? path others).map ImportFolder.parts :=
  map_parts_deepestAbove? (.of_subset h.subset) (.of_subset h.symm.subset)

/--
Where a file is now does not depend on the order of the folders, up to which of several folders at
one place it is in. Nor does it depend on a folder that is not above the file, or that is less deep
than another one above it: for the file's folder a destination, for its segments any.
-/
theorem current_place_ignores_order (path : String) :
    (∀ folders others : List ImportFolder, folders.Perm others →
      currentSegments folders path = currentSegments others path ∧
      (currentDestination? folders path).map ImportFolder.parts =
        (currentDestination? others path).map ImportFolder.parts) ∧
    (∀ (before after : List ImportFolder) (added : ImportFolder), isAbove added path = false →
      currentSegments (before ++ added :: after) path = currentSegments (before ++ after) path ∧
      currentDestination? (before ++ added :: after) path =
        currentDestination? (before ++ after) path) ∧
    (∀ (before after : List ImportFolder) (added deeper : ImportFolder),
      deeper ∈ before ++ after → isAbove deeper path = true →
      added.parts.length < deeper.parts.length →
      currentSegments (before ++ added :: after) path = currentSegments (before ++ after) path ∧
      (deeper.isDestination = true →
        currentDestination? (before ++ added :: after) path =
          currentDestination? (before ++ after) path)) ∧
    ∀ folder other : ImportFolder, isAbove folder path = true → isAbove other path = true →
      folder.parts <+: other.parts ∨ other.parts <+: folder.parts := by
  refine ⟨fun folders others hperm => ⟨?_, ?_⟩, fun before after added hadded => ?_,
    fun before after added deeper hmem habove hlength => ⟨?_, fun hdestination => ?_⟩,
    fun folder other => prefix_or_prefix_of_isAbove⟩
  · exact currentSegments_congr (map_parts_deepestAbove?_of_perm hperm)
  · exact map_parts_deepestAbove?_of_perm (hperm.filter _)
  · have hnot : ¬ isAbove added path = true := by simp [hadded]
    exact ⟨currentSegments_insert fun habove => absurd habove hnot,
      currentDestination?_insert fun habove => absurd habove hnot⟩
  · exact currentSegments_insert fun _ => ⟨deeper, hmem, habove, hlength⟩
  · exact currentDestination?_insert fun _ => ⟨deeper, hmem, hdestination, habove, hlength⟩

/--
Two spellings of one location, of which the last is found; with the root, which lies above both, and
a folder elsewhere.
-/
theorem current_place_ignores_order_of_spellings :
    let library : ImportFolder :=
      { id := 1, name := "Library", location := "/lib", role := .destination }
    let mirror : ImportFolder := { library with id := 2, location := "\\lib//" }
    let root : ImportFolder := { library with id := 3, location := "/" }
    let elsewhere : ImportFolder := { library with id := 4, location := "/library" }
    let path := "/lib/Show\\S1/a.mkv"
    (currentDestination? [library, mirror] path = some mirror ∧
      currentDestination? [mirror, library] path = some library ∧ mirror ≠ library) ∧
    (currentSegments [library, mirror] path = ["Show", "S1"] ∧
      currentSegments [library, mirror] path = currentSegments [mirror, library] path ∧
      (currentDestination? [library, mirror] path).map ImportFolder.parts =
        (currentDestination? [mirror, library] path).map ImportFolder.parts) ∧
    (isAbove elsewhere path = false ∧
      currentDestination? [library, elsewhere, mirror] path = some mirror) ∧
    (isAbove root path = true ∧
      currentDestination? [library, mirror, root] path = some mirror) ∧
    (root.parts <+: library.parts ∨ library.parts <+: root.parts) := by
  intro library mirror root elsewhere path
  obtain ⟨horder, helsewhere, hroot, habove⟩ := current_place_ignores_order path
  have hfound : currentDestination? [library, mirror] path = some mirror := by decide +kernel
  have hnot : isAbove elsewhere path = false := by decide +kernel
  have hrootAbove : isAbove root path = true := by decide +kernel
  have hlibraryAbove : isAbove library path = true := by decide +kernel
  have hdeeper : root.parts.length < library.parts.length := by decide +kernel
  refine ⟨⟨hfound, by decide +kernel, by decide +kernel⟩, ⟨by decide +kernel, ?_⟩, ⟨hnot, ?_⟩,
    ⟨hrootAbove, ?_⟩, habove root library hrootAbove hlibraryAbove⟩
  · exact horder [library, mirror] [mirror, library] (List.Perm.swap _ _ _)
  · exact (helsewhere [library] [mirror] elsewhere hnot).2.trans hfound
  · have hlast := hroot [library, mirror] [] root library (by simp) hlibraryAbove hdeeper
    exact (hlast.2 (by decide +kernel)).trans hfound

end Placement

end MediaNaming
