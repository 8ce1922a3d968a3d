import MediaNaming.Proofs.Placement.Wildcards

/-!
# Choosing folders

A file goes to a destination folder: to the first one that answers to the name that a script asks
for, or, when a script asks for no name, to the deepest one that the file is in now. There is no
other choice, and whether there is a folder does not depend on the segments below it.
-/

namespace MediaNaming

namespace Placement

/-! ## Folders above a path -/

section Above

variable {path : String} {folder : ImportFolder} {folders : List ImportFolder}

theorem isAbove_iff : isAbove folder path = true ↔ folder.parts <+: locationParts path := by
  unfold isAbove ImportFolder.depthAbove?
  split <;> simp_all

/-- No folder above the path has a longer location, and none that comes later has one as long. -/
structure IsDeepestAbove (path : String) (folders : List ImportFolder) (folder : ImportFolder) :
    Prop where
  above : isAbove folder path = true
  deepest : ∃ before after, folders = before ++ folder :: after ∧
    (∀ other ∈ before, isAbove other path = true → other.parts.length ≤ folder.parts.length) ∧
    ∀ other ∈ after, isAbove other path = true → other.parts.length < folder.parts.length

namespace IsDeepestAbove

theorem mem (h : IsDeepestAbove path folders folder) : folder ∈ folders := by
  obtain ⟨before, after, rfl, -, -⟩ := h.deepest
  simp

theorem length_le (h : IsDeepestAbove path folders folder) {other : ImportFolder}
    (hmem : other ∈ folders) (habove : isAbove other path = true) :
    other.parts.length ≤ folder.parts.length := by
  obtain ⟨before, after, rfl, hbefore, hafter⟩ := h.deepest
  rcases List.mem_append.mp hmem with hmem | hmem
  · exact hbefore other hmem habove
  · rcases List.mem_cons.mp hmem with rfl | hmem
    · exact Nat.le_refl _
    · exact Nat.le_of_lt (hafter other hmem habove)

/-- A folder in front of the list does not come before deeper ones or ones as deep. -/
theorem cons (h : IsDeepestAbove path folders folder) {first : ImportFolder}
    (hfirst : isAbove first path = true → first.parts.length ≤ folder.parts.length) :
    IsDeepestAbove path (first :: folders) folder := by
  obtain ⟨before, after, rfl, hbefore, hafter⟩ := h.deepest
  exact ⟨h.above, first :: before, after, rfl, List.forall_mem_cons.mpr ⟨hfirst, hbefore⟩, hafter⟩

theorem head (habove : isAbove folder path = true)
    (hrest : ∀ other ∈ folders, isAbove other path = true →
      other.parts.length < folder.parts.length) :
    IsDeepestAbove path (folder :: folders) folder :=
  ⟨habove, [], folders, rfl, fun _ hother => absurd hother List.not_mem_nil, hrest⟩

end IsDeepestAbove

theorem deepestAbove?_eq_none_iff :
    deepestAbove? path folders = none ↔ ∀ folder ∈ folders, isAbove folder path = false := by
  induction folders with
  | nil => simp [deepestAbove?]
  | cons first folders ih =>
    rw [List.forall_mem_cons, ← ih, deepestAbove?]
    cases deepestAbove? path folders with
    | none => simp
    | some deepest =>
      dsimp only
      split <;> simp

theorem isDeepestAbove_of_deepestAbove? (h : deepestAbove? path folders = some folder) :
    IsDeepestAbove path folders folder := by
  induction folders generalizing folder with
  | nil => cases h
  | cons first folders ih =>
    rw [deepestAbove?] at h
    split at h
    · next deepest hrest =>
      have hdeepest := ih hrest
      split at h
      · next hfirst =>
        -- The first folder is deeper than the deepest of the others, and so than all of them.
        cases h
        simp only [Bool.and_eq_true, decide_eq_true_eq] at hfirst
        refine .head hfirst.1 fun other hother habove => ?_
        exact Nat.lt_of_le_of_lt (hdeepest.length_le hother habove) hfirst.2
      · next hfirst =>
        cases h
        refine hdeepest.cons fun habove => ?_
        simpa [habove] using hfirst
    · next hrest =>
      split at h
      · next hfirst =>
        cases h
        refine .head hfirst fun other hother habove => ?_
        rw [deepestAbove?_eq_none_iff.mp hrest other hother] at habove
        cases habove
      · cases h

end Above

/-! ## Folders that are asked for -/

/-- The name is that of the folder or its location, up to case. -/
def IsCalled (name : String) (folder : ImportFolder) : Prop :=
  Text.lower folder.name = Text.lower name ∨
    Text.lower folder.normalizedLocation = Text.lower (normalizeLocation name)

theorem answersTo_iff {folder : ImportFolder} {name : String} :
    answersTo folder name = true ↔ IsCalled name folder := by
  simp [answersTo, IsCalled, Text.sameIgnoringCase]

/-- The folder is a destination, and no earlier one of the list is called so. -/
structure IsFirstCalled (name : String) (folders : List ImportFolder) (folder : ImportFolder) :
    Prop where
  isDestination : folder.isDestination = true
  isCalled : IsCalled name folder
  first : ∃ before after, folders = before ++ folder :: after ∧
    ∀ other ∈ before, other.isDestination = true → ¬ IsCalled name other

section Choice

variable {path name : String} {folder : ImportFolder} {folders : List ImportFolder}

theorem isFirstCalled_of_findDestination? (h : findDestination? folders name = some folder) :
    IsFirstCalled name folders folder := by
  rw [findDestination?, List.find?_filter, List.find?_eq_some_iff_append] at h
  obtain ⟨hfolder, before, after, hfolders, hbefore⟩ := h
  simp only [decide_eq_true_eq] at hfolder
  refine ⟨hfolder.1, answersTo_iff.mp hfolder.2, before, after, hfolders, ?_⟩
  intro other hother hdestination hcalled
  have hother := hbefore other hother
  simp [hdestination, answersTo_iff.mpr hcalled] at hother

theorem findDestination?_eq_none_iff :
    findDestination? folders name = none ↔
      ∀ folder ∈ folders, folder.isDestination = true → ¬ IsCalled name folder := by
  simp [findDestination?, ← answersTo_iff]

theorem isDeepestAbove_of_currentDestination?
    (h : currentDestination? folders path = some folder) :
    IsDeepestAbove path (folders.filter ImportFolder.isDestination) folder :=
  isDeepestAbove_of_deepestAbove? h

theorem currentDestination?_eq_none_iff :
    currentDestination? folders path = none ↔
      ∀ folder ∈ folders, folder.isDestination = true →
        ¬ folder.parts <+: locationParts path := by
  simp [currentDestination?, deepestAbove?_eq_none_iff, ← isAbove_iff]

/-! ### The choice -/

theorem destinationFolder_of_name (hname : name ≠ "") :
    destinationFolder folders path name =
      match findDestination? folders name with
      | some folder => .ok folder
      | none => .error (.noSuchDestination name) := by
  unfold destinationFolder
  exact if_neg (by simpa using hname)

theorem destinationFolder_of_blank :
    destinationFolder folders path "" =
      match currentDestination? folders path with
      | some folder => .ok folder
      | none => .error .noCurrentDestination :=
  rfl

theorem destinationFolder_of_name_eq_ok_iff (hname : name ≠ "") :
    destinationFolder folders path name = .ok folder ↔
      findDestination? folders name = some folder := by
  rw [destinationFolder_of_name hname]
  cases findDestination? folders name <;> simp

theorem destinationFolder_of_name_eq_error_iff (hname : name ≠ "") {error : PlacementError} :
    destinationFolder folders path name = .error error ↔
      findDestination? folders name = none ∧ error = .noSuchDestination name := by
  rw [destinationFolder_of_name hname]
  cases findDestination? folders name <;> simp [eq_comm]

theorem destinationFolder_of_blank_eq_ok_iff :
    destinationFolder folders path "" = .ok folder ↔
      currentDestination? folders path = some folder := by
  rw [destinationFolder_of_blank]
  cases currentDestination? folders path <;> simp

theorem destinationFolder_of_blank_eq_error_iff {error : PlacementError} :
    destinationFolder folders path "" = .error error ↔
      currentDestination? folders path = none ∧ error = .noCurrentDestination := by
  rw [destinationFolder_of_blank]
  cases currentDestination? folders path <;> simp [eq_comm]

/-- Whatever is asked for, the folder is one of the list that files may be moved to. -/
theorem allowed_of_destinationFolder (h : destinationFolder folders path name = .ok folder) :
    folder ∈ folders ∧ folder.isDestination = true := by
  by_cases hname : name = ""
  · subst hname
    have hdeepest :=
      isDeepestAbove_of_currentDestination? (destinationFolder_of_blank_eq_ok_iff.mp h)
    exact List.mem_filter.mp hdeepest.mem
  · have hfirst :=
      isFirstCalled_of_findDestination? ((destinationFolder_of_name_eq_ok_iff hname).mp h)
    obtain ⟨before, after, rfl, -⟩ := hfirst.first
    exact ⟨by simp, hfirst.isDestination⟩

end Choice

/-! ## Errors about folders -/

end Placement

/-- The error says that no folder is there for the file, whatever the segments below it. -/
def PlacementError.IsAboutFolder : PlacementError → Prop
  | .noSuchDestination _ => True
  | .noCurrentDestination => True
  | .wildcardOutOfRange _ => False
  | .emptySubfolder => False

namespace Placement

section Errors

variable {buffers : Buffers} {folders : List ImportFolder} {path : String}
  {policy : SanitizePolicy} {error : PlacementError}

theorem not_isAboutFolder_of_askedSegments {current : List String}
    (h : askedSegments buffers policy current = .error error) : ¬ error.IsAboutFolder := by
  unfold askedSegments at h
  split at h
  · obtain ⟨i, rfl, -⟩ := segments_eq_error_iff.mp h
    exact id
  · cases h

theorem not_isAboutFolder_of_placeBelow {folder : ImportFolder} {found : List String}
    (h : placeBelow folder found = .error error) : ¬ error.IsAboutFolder := by
  unfold placeBelow at h
  split at h
  · cases h
    exact id
  · cases h

/-- Errors about folders come first: the segments are not looked at. -/
theorem resolve_eq_error_iff (hfolder : error.IsAboutFolder) :
    resolve buffers folders path policy = .error error ↔
      buffers.asksNothing = false ∧
        destinationFolder folders path (Text.trim buffers.destination) = .error error := by
  cases hasks : buffers.asksNothing with
  | true => simp [resolve_of_asksNothing hasks]
  | false =>
    rw [resolve_of_asks hasks, bind_eq_error_iff]
    constructor
    · rintro (h | ⟨folder, -, h⟩)
      · exact ⟨rfl, h⟩
      · rcases bind_eq_error_iff.mp h with h | ⟨found, -, h⟩
        · exact absurd hfolder (not_isAboutFolder_of_askedSegments h)
        · exact absurd hfolder (not_isAboutFolder_of_placeBelow h)
    · exact fun h => .inl h.2

end Errors

/--
Files go to folders of the list that are a destination and not excluded, unchanged. If a folder is
asked for, it is the first one that is called so, wherever the file is, and there is no other; else
it is one that the file is in, and none that the file is in has a longer location. That there is no
such folder is an error of its own, which does not depend on the segments.
-/
theorem files_go_to_allowed_folders (buffers : Buffers) (folders : List ImportFolder)
    (path : String) (policy : SanitizePolicy) :
    (∀ place, resolve buffers folders path policy = .ok (some place) →
      place.folder ∈ folders ∧ place.folder.role.contains .destination = true ∧
        place.folder.role.contains .excluded = false) ∧
    (Text.trim buffers.destination ≠ "" →
      (∀ place, resolve buffers folders path policy = .ok (some place) →
        IsFirstCalled (Text.trim buffers.destination) folders place.folder ∧
        ∀ other otherPlace, resolve buffers folders other policy = .ok (some otherPlace) →
          otherPlace.folder = place.folder) ∧
      ∀ error, error.IsAboutFolder →
        (resolve buffers folders path policy = .error error ↔
          error = .noSuchDestination (Text.trim buffers.destination) ∧
          ∀ folder ∈ folders, folder.isDestination = true →
            ¬ IsCalled (Text.trim buffers.destination) folder)) ∧
    (Text.trim buffers.destination = "" →
      buffers.destinationWritten = true ∨ buffers.subfolderWritten = true →
      (∀ place, resolve buffers folders path policy = .ok (some place) →
        place.folder.parts <+: locationParts path ∧
        ∀ other ∈ folders, other.isDestination = true → other.parts <+: locationParts path →
          other.parts.length ≤ place.folder.parts.length) ∧
      ∀ error, error.IsAboutFolder →
        (resolve buffers folders path policy = .error error ↔
          error = .noCurrentDestination ∧
          ∀ folder ∈ folders, folder.isDestination = true →
            ¬ folder.parts <+: locationParts path)) := by
  refine ⟨fun place hplace => ?_, fun hname => ⟨fun place hplace => ⟨?_, ?_⟩, ?_⟩,
    fun hblank hwritten => ⟨fun place hplace => ⟨?_, ?_⟩, ?_⟩⟩
  · obtain ⟨-, hfolder, -⟩ := resolve_eq_some_iff.mp hplace
    obtain ⟨hmem, hdestination⟩ := allowed_of_destinationFolder hfolder
    exact ⟨hmem, by simpa [ImportFolder.isDestination] using hdestination⟩
  · obtain ⟨-, hfolder, -⟩ := resolve_eq_some_iff.mp hplace
    exact isFirstCalled_of_findDestination? ((destinationFolder_of_name_eq_ok_iff hname).mp hfolder)
  · -- The name alone decides, and it is the same for both files.
    intro other otherPlace hother
    obtain ⟨-, hfolder, -⟩ := resolve_eq_some_iff.mp hplace
    obtain ⟨-, hotherFolder, -⟩ := resolve_eq_some_iff.mp hother
    rw [destinationFolder_of_name_eq_ok_iff hname] at hfolder hotherFolder
    exact Option.some.inj (hotherFolder.symm.trans hfolder)
  · intro error herror
    rw [resolve_eq_error_iff herror, destinationFolder_of_name_eq_error_iff hname,
      findDestination?_eq_none_iff]
    have hasks : buffers.asksNothing = false := Buffers.asksNothing_eq_false_iff.mpr (.inl hname)
    simp [hasks, and_comm]
  · obtain ⟨-, hfolder, -⟩ := resolve_eq_some_iff.mp hplace
    rw [hblank, destinationFolder_of_blank_eq_ok_iff] at hfolder
    exact isAbove_iff.mp (isDeepestAbove_of_currentDestination? hfolder).above
  · intro other hmem hdestination habove
    obtain ⟨-, hfolder, -⟩ := resolve_eq_some_iff.mp hplace
    rw [hblank, destinationFolder_of_blank_eq_ok_iff] at hfolder
    have hother := List.mem_filter.mpr ⟨hmem, hdestination⟩
    exact (isDeepestAbove_of_currentDestination? hfolder).length_le hother (isAbove_iff.mpr habove)
  · intro error herror
    rw [resolve_eq_error_iff herror, hblank, destinationFolder_of_blank_eq_error_iff,
      currentDestination?_eq_none_iff]
    have hasks : buffers.asksNothing = false := Buffers.asksNothing_eq_false_iff.mpr (.inr hwritten)
    simp [hasks, and_comm]

/--
An excluded folder of the same name comes first and a folder within the library, which is no
destination, is deeper; neither is chosen.
-/
theorem files_go_to_allowed_folders_of_nested :
    let library : ImportFolder :=
      { id := 2, name := "Library", location := "/lib/", role := .destination }
    let folders : List ImportFolder := [
      { id := 1, name := "library", location := "/old", role := .union .destination .excluded },
      library,
      { id := 3, name := "Drop", location := "/lib/in", role := .source }]
    let asking : Buffers := { destination := " LIBRARY ", destinationWritten := true }
    let staying : Buffers := { destination := " ", subfolder := "S", subfolderWritten := true }
    let lost : Buffers := { destination := "drop", subfolder := "\uE001", subfolderWritten := true }
    (resolve asking folders "/lib/in/S/a.mkv" {} = .ok (some ⟨library, "S"⟩) ∧
      IsFirstCalled "LIBRARY" folders library) ∧
    (resolve staying folders "/lib/in/a.mkv" {} = .ok (some ⟨library, "S"⟩) ∧
      library.parts <+: locationParts "/lib/in/a.mkv") ∧
    resolve lost folders "/a.mkv" {} = .error (.noSuchDestination "drop") := by
  intro library folders asking staying lost
  have hasking : resolve asking folders "/lib/in/S/a.mkv" {} = .ok (some ⟨library, "S"⟩) := by
    decide +kernel
  have hstaying : resolve staying folders "/lib/in/a.mkv" {} = .ok (some ⟨library, "S"⟩) := by
    decide +kernel
  have htrim : Text.trim asking.destination = "LIBRARY" := by decide +kernel
  have hblank : Text.trim staying.destination = "" := by decide +kernel
  have hlost : Text.trim lost.destination = "drop" := by decide +kernel
  refine ⟨⟨hasking, ?_⟩, ⟨hstaying, ?_⟩, ?_⟩
  · have hchoice := (files_go_to_allowed_folders asking folders "/lib/in/S/a.mkv" {}).2.1
    rw [htrim] at hchoice
    exact ((hchoice (by decide)).1 _ hasking).1
  · have hchoice := (files_go_to_allowed_folders staying folders "/lib/in/a.mkv" {}).2.2
    exact ((hchoice hblank (.inr rfl)).1 _ hstaying).1
  · -- The wildcard has nothing to stand for either, but the folder comes first.
    have hchoice := (files_go_to_allowed_folders lost folders "/a.mkv" {}).2.1
    rw [hlost] at hchoice
    refine ((hchoice (by decide)).2 (.noSuchDestination "drop") trivial).mpr ⟨rfl, ?_⟩
    simp only [← answersTo_iff]
    decide +kernel

end Placement

end MediaNaming
