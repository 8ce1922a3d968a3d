import MediaNaming.Placement.Resolve
import MediaNaming.Proofs.Results

/-!
# Stages of placing a file

To place a file is to choose a folder, to find the segments below it and to join them. A stage is
only reached if those before it succeed, so an error of an earlier stage hides those of later ones.
-/

namespace MediaNaming

/-- Neither of the buffers was written, and no folder is asked for. -/
def Buffers.asksNothing (buffers : Buffers) : Bool :=
  (Text.trim buffers.destination).isEmpty && !buffers.destinationWritten &&
    !buffers.subfolderWritten

theorem Buffers.asksNothing_eq_false_iff {buffers : Buffers} :
    buffers.asksNothing = false ↔
      Text.trim buffers.destination ≠ "" ∨ buffers.destinationWritten = true ∨
        buffers.subfolderWritten = true := by
  simp only [asksNothing, Bool.and_eq_false_iff, Bool.not_eq_false', or_assoc]
  simp

namespace Placement

/-! ## The stages behind the folder -/

/-- The segments that the buffers ask for when the file has `current`. -/
def askedSegments (buffers : Buffers) (policy : SanitizePolicy) (current : List String) :
    Except PlacementError (List String) :=
  if buffers.subfolderWritten then segments policy current buffers.subfolder else .ok current

/-- The place that segments lead to, which is never the folder itself. -/
def placeBelow (folder : ImportFolder) (found : List String) :
    Except PlacementError (Option Destination) :=
  if found.isEmpty then .error .emptySubfolder else .ok (some ⟨folder, "/".intercalate found⟩)

theorem placeBelow_ne_none (folder : ImportFolder) (found : List String) :
    placeBelow folder found ≠ .ok none := by
  unfold placeBelow
  split <;> simp

theorem placeBelow_eq_some_iff {folder : ImportFolder} {found : List String}
    {place : Destination} :
    placeBelow folder found = .ok (some place) ↔
      found ≠ [] ∧ place = ⟨folder, "/".intercalate found⟩ := by
  unfold placeBelow
  cases found with
  | nil => simp
  | cons segment found => simp [eq_comm]

/-! ## All stages -/

section Stages

variable {buffers : Buffers} {folders : List ImportFolder} {path : String}
  {policy : SanitizePolicy}

theorem resolve_of_asksNothing (h : buffers.asksNothing = true) :
    resolve buffers folders path policy = .ok none := by
  unfold resolve
  exact if_pos h

theorem resolve_of_asks (h : buffers.asksNothing = false) :
    resolve buffers folders path policy =
      destinationFolder folders path (Text.trim buffers.destination) >>= fun folder =>
        askedSegments buffers policy (currentSegments folders path) >>= placeBelow folder := by
  have hasks : ¬ buffers.asksNothing = true := by simp [h]
  unfold resolve askedSegments placeBelow
  refine (if_neg hasks).trans ?_
  cases destinationFolder folders path (Text.trim buffers.destination) with
  | error error => rfl
  | ok folder => cases buffers.subfolderWritten <;> rfl

theorem resolve_eq_none_iff :
    resolve buffers folders path policy = .ok none ↔ buffers.asksNothing = true := by
  cases hasks : buffers.asksNothing with
  | true => simp [resolve_of_asksNothing hasks]
  | false =>
    rw [resolve_of_asks hasks]
    simp only [bind_eq_ok_iff, Bool.false_eq_true, iff_false]
    rintro ⟨folder, -, found, -, h⟩
    exact placeBelow_ne_none folder found h

/-- A file has a place when each stage succeeds. -/
theorem resolve_eq_some_iff {place : Destination} :
    resolve buffers folders path policy = .ok (some place) ↔
      buffers.asksNothing = false ∧
      destinationFolder folders path (Text.trim buffers.destination) = .ok place.folder ∧
      ∃ found, askedSegments buffers policy (currentSegments folders path) = .ok found ∧
        found ≠ [] ∧ place.subfolder = "/".intercalate found := by
  cases hasks : buffers.asksNothing with
  | true => simp [resolve_of_asksNothing hasks]
  | false =>
    rw [resolve_of_asks hasks, bind_eq_ok_iff]
    constructor
    · rintro ⟨folder, hfolder, h⟩
      obtain ⟨found, hfound, h⟩ := bind_eq_ok_iff.mp h
      obtain ⟨hne, rfl⟩ := placeBelow_eq_some_iff.mp h
      exact ⟨rfl, hfolder, found, hfound, hne, rfl⟩
    · rintro ⟨-, hfolder, found, hfound, hne, hsubfolder⟩
      refine ⟨place.folder, hfolder, bind_eq_ok_iff.mpr ⟨found, hfound, ?_⟩⟩
      exact placeBelow_eq_some_iff.mpr ⟨hne, by rw [← hsubfolder]⟩

end Stages

end Placement

end MediaNaming
