import MediaNaming.Proofs.Paths.Joining
import MediaNaming.Proofs.Paths.Locations
import MediaNaming.Proofs.Placement.Depths

/-!
# Staying in place

A file that is to stay in its folder, and of which nothing is said about the subfolder, stays in its
directory, if no folder of another role lies between. Its directory has to lie below the folder.
-/

namespace MediaNaming

namespace Placement

variable {path : String} {folder : ImportFolder} {folders : List ImportFolder} {buffers : Buffers}
  {policy : SanitizePolicy}

/-! ## Parts of a path -/

/-- Parts of a path that slashes stand between are parts again. -/
theorem locationParts_intercalate_of_subset {pieces : List String}
    (h : pieces ⊆ locationParts path) : locationParts ("/".intercalate pieces) = pieces := by
  rw [locationParts_intercalate]
  induction pieces with
  | nil => rfl
  | cons piece pieces ih =>
    obtain ⟨hpiece, hpieces⟩ := List.cons_subset.mp h
    rw [List.flatMap_cons, ih hpieces, locationParts_of_isPiece
      (isPiece_of_mem_locationParts hpiece) (backslash_not_mem_locationParts hpiece)]
    rfl

/-! ## The current place -/

/-- If no folder is deeper than the one for the file, the segments are what lies below that. -/
theorem currentSegments_of_current (hcurrent : currentDestination? folders path = some folder)
    (hdeepest : ∀ other ∈ folders, isAbove other path = true →
      other.parts.length ≤ folder.parts.length)
    {below : List String} (hbelow : locationParts path = folder.parts ++ below) :
    currentSegments folders path = below.dropLast := by
  have hfolder := isDeepestAbove_of_currentDestination? hcurrent
  have hmem : folder ∈ folders := (List.mem_filter.mp hfolder.mem).1
  -- The folder alone reaches as deep as the list.
  have halone : ReachAsDeep path folders [folder] := fun other hother habove =>
    ⟨folder, List.mem_singleton_self _, hfolder.above, hdeepest other hother habove⟩
  have hlist : ReachAsDeep path [folder] folders := .of_subset (by simpa using hmem)
  have hsingle : deepestAbove? path [folder] = some folder := by
    simp [deepestAbove?, hfolder.above]
  rw [currentSegments_congr (map_parts_deepestAbove? halone hlist),
    currentSegments_of_deepest hsingle, hbelow, List.drop_left]

theorem resolve_of_current (hblank : Text.trim buffers.destination = "")
    (hwritten : buffers.destinationWritten = true) (hkept : buffers.subfolderWritten = false)
    (hcurrent : currentDestination? folders path = some folder) :
    resolve buffers folders path policy = placeBelow folder (currentSegments folders path) := by
  have hasks : buffers.asksNothing = false :=
    Buffers.asksNothing_eq_false_iff.mpr (.inr (.inl hwritten))
  have hfolder : destinationFolder folders path "" = .ok folder :=
    destinationFolder_of_blank_eq_ok_iff.mpr hcurrent
  rw [resolve_of_asks hasks, hblank, hfolder, ok_bind, askedSegments, hkept,
    if_neg Bool.false_ne_true, ok_bind]

/--
If the folder that a file is in is a destination, and no folder above the file lies deeper, then a
script that writes a blank destination and no subfolder leaves the file in its directory; that is an
error where this is the folder itself. For a folder lies above a path just if its parts are the
first ones of the path, and behind these come the directories of the file and one more part.
-/
theorem staying_keeps_directory (folders : List ImportFolder) (path : String)
    (policy : SanitizePolicy) (buffers : Buffers) (hblank : Text.trim buffers.destination = "")
    (hwritten : buffers.destinationWritten = true) (hkept : buffers.subfolderWritten = false) :
    (∀ (folder : ImportFolder) (path : String),
      (∀ depth, folder.depthAbove? path = some depth ↔
        folder.parts <+: locationParts path ∧ depth = folder.parts.length) ∧
      ∀ depth, folder.depthAbove? path = some depth →
        ∃ dirs last, folder.relativeDirs? path = some dirs ∧
          locationParts path = folder.parts ++ dirs ++ Option.toList last ∧
          (last = none → dirs = [])) ∧
    ∀ folder, currentDestination? folders path = some folder →
      (∀ other ∈ folders, isAbove other path = true →
        other.parts.length ≤ folder.parts.length) →
      (folder.parts.length + 2 ≤ (locationParts path).length →
        ∃ place, resolve buffers folders path policy = .ok (some place) ∧
          place.folder = folder ∧
          locationParts (Path.join folder.location place.subfolder) =
            (locationParts path).dropLast) ∧
      ((locationParts path).length < folder.parts.length + 2 →
        resolve buffers folders path policy = .error .emptySubfolder) := by
  refine ⟨fun folder path => ⟨fun depth => ImportFolder.depthAbove?_eq_some_iff,
    fun depth => ImportFolder.parts_of_depthAbove?⟩, fun folder hcurrent hdeepest => ?_⟩
  obtain ⟨below, hbelow⟩ := isAbove_iff.mp (isDeepestAbove_of_currentDestination? hcurrent).above
  have hlength : (locationParts path).length = folder.parts.length + below.length := by
    rw [← hbelow, List.length_append]
  have hsegments := currentSegments_of_current hcurrent hdeepest hbelow.symm
  rw [resolve_of_current hblank hwritten hkept hcurrent, hsegments]
  constructor
  · intro hlong
    have hne : below.dropLast ≠ [] := by
      rw [← List.length_pos_iff, List.length_dropLast]
      omega
    have hsubset : below.dropLast ⊆ locationParts path := by
      rw [← hbelow]
      exact List.Subset.trans (List.dropLast_subset _) (List.subset_append_right _ _)
    refine ⟨_, placeBelow_eq_some_iff.mpr ⟨hne, rfl⟩, rfl, ?_⟩
    have hrelative : Path.isAbsolute ("/".intercalate below.dropLast) = false :=
      Path.isAbsolute_intercalate hne fun piece hpiece =>
        isPiece_of_mem_locationParts (hsubset hpiece)
    rw [locationParts_join hrelative, locationParts_intercalate_of_subset hsubset, ← hbelow]
    have hbelowNe : below ≠ [] := fun hnil => hne (by rw [hnil]; rfl)
    exact (List.dropLast_append_of_ne_nil hbelowNe).symm
  · intro hshort
    -- The file lies in the folder itself, or its path is the folder's: no directory is left.
    have hnil : below.dropLast = [] := by
      rw [← List.length_eq_zero_iff, List.length_dropLast]
      omega
    rw [hnil]
    rfl

/--
A folder that is spelt with backslashes and slashes at its end, and the root above it: a file two
directories below it stays there, and one in it has no subfolder to keep.
-/
theorem staying_keeps_directory_of_spelling :
    let root : ImportFolder := { id := 1, name := "Root", location := "/", role := .source }
    let library : ImportFolder :=
      { id := 2, name := "Library", location := "\\lib//", role := .destination }
    let folders := [library, root]
    let buffers : Buffers := { destination := " \t", destinationWritten := true }
    (∃ place, resolve buffers folders "/lib\\Show//S1/a.mkv" {} = .ok (some place) ∧
      place.folder = library ∧
      locationParts (Path.join library.location place.subfolder) = ["lib", "Show", "S1"]) ∧
    resolve buffers folders "//lib/a.mkv/" {} = .error .emptySubfolder := by
  intro root library folders buffers
  have hblank : Text.trim buffers.destination = "" := by decide +kernel
  constructor
  · exact ((staying_keeps_directory folders "/lib\\Show//S1/a.mkv" {} buffers hblank rfl rfl).2
      library (by decide +kernel) (by decide +kernel)).1 (by decide +kernel)
  · exact ((staying_keeps_directory folders "//lib/a.mkv/" {} buffers hblank rfl rfl).2
      library (by decide +kernel) (by decide +kernel)).2 (by decide +kernel)

end Placement

end MediaNaming
