import MediaNaming.Proofs.Paths.Locations
import MediaNaming.Proofs.Placement.Stages

/-!
# Segments of subfolders

Where the segments of a subfolder come from, and what they cannot hold.
-/

namespace MediaNaming

/-! ## Sanitized texts -/

namespace Text

theorem mem_of_mem_dropTailWhile {p : Char → Bool} {cs : List Char} {c : Char}
    (h : c ∈ dropTailWhile p cs) : c ∈ cs := by
  rw [dropTailWhile, List.mem_reverse] at h
  exact List.mem_reverse.mp ((List.dropWhile_suffix p).mem h)

theorem getLast?_dropTailWhile {p : Char → Bool} {cs : List Char} {c : Char}
    (h : (dropTailWhile p cs).getLast? = some c) : p c = false := by
  rw [dropTailWhile, List.getLast?_reverse] at h
  have hhead := List.head?_dropWhile_not p cs.reverse
  rw [h] at hhead
  exact hhead

end Text

namespace SanitizePolicy

variable {policy : SanitizePolicy}

theorem isIllegal_slash (policy : SanitizePolicy) : policy.isIllegal '/' = true := by
  unfold isIllegal
  split
  · decide
  · rfl

theorem lookAlike?_ne_slash (c : Char) : lookAlike? c ≠ some '/' := by
  unfold lookAlike?
  split <;> simp

theorem sanitizeChar_ne_slash (policy : SanitizePolicy) (c : Char) :
    policy.sanitizeChar c ≠ some '/' := by
  intro h
  unfold sanitizeChar at h
  split at h
  · cases h
  · split at h
    · next hlegal =>
      cases h
      rw [isIllegal_slash] at hlegal
      cases hlegal
    · split at h
      · cases h
      · exact lookAlike?_ne_slash c h

/-- What is in a sanitized text is what became of some character. -/
theorem mem_sanitizeChars {cs : List Char} {image : Char} (h : image ∈ policy.sanitizeChars cs) :
    ∃ c ∈ cs, policy.sanitizeChar c = some image := by
  have hkept : image ∈ cs.filterMap policy.sanitizeChar := by
    rw [sanitizeChars] at h
    split at h
    · exact Text.mem_of_mem_dropTailWhile h
    · exact h
  exact List.mem_filterMap.mp hkept

/-- No policy leaves a slash in a name. -/
theorem slash_not_mem_sanitizeChars (policy : SanitizePolicy) (cs : List Char) :
    '/' ∉ policy.sanitizeChars cs := by
  intro h
  obtain ⟨c, -, hc⟩ := mem_sanitizeChars h
  exact sanitizeChar_ne_slash policy c hc

/-- Where names are made fit for Windows, none ends in a dot. -/
theorem getLast?_sanitizeChars (hwindows : policy.windowsCompatible = true) (cs : List Char) :
    (policy.sanitizeChars cs).getLast? ≠ some '.' := by
  intro h
  rw [sanitizeChars, if_pos hwindows] at h
  exact absurd (Text.getLast?_dropTailWhile h) (by decide)

end SanitizePolicy

namespace Placement

/-! ## Segments of a buffer -/

section Segments

variable {policy : SanitizePolicy} {current : List String} {index : Nat}

/-- A segment that a part of the buffer spells out: the part is no wildcard and not empty. -/
def SpellsSegment (policy : SanitizePolicy) (part segment : String) : Prop :=
  isWildcard part = false ∧ literalSegment policy part = segment ∧ segment ≠ ""

theorem slash_not_mem_of_spellsSegment {part segment : String}
    (h : SpellsSegment policy part segment) : '/' ∉ segment.toList := by
  rw [← h.2.1, literalSegment, String.toList_ofList]
  exact policy.slash_not_mem_sanitizeChars _

/-- Where names are made fit for Windows, no part spells out dots. -/
theorem not_isDots_of_spellsSegment (hwindows : policy.windowsCompatible = true)
    {part segment : String} (h : SpellsSegment policy part segment) : ¬ Path.IsDots segment := by
  intro hdots
  have hlast : segment.toList.getLast? ≠ some '.' := by
    rw [← h.2.1, literalSegment, String.toList_ofList]
    exact SanitizePolicy.getLast?_sanitizeChars hwindows _
  rcases hdots with rfl | rfl
  · exact hlast (by decide)
  · exact hlast (by decide)

/-- What the first part of a buffer contributes to the segments. -/
theorem segmentsFrom_cons {part : String} {parts segments : List String}
    (h : segmentsFrom policy current index (part :: parts) = .ok segments) :
    (∃ kept more, isWildcard part = true ∧ kept ∈ current ∧
      segmentsFrom policy current (index + 1) parts = .ok more ∧ segments = kept :: more) ∨
    (isWildcard part = false ∧ literalSegment policy part = "" ∧
      segmentsFrom policy current index parts = .ok segments) ∨
    ∃ segment more, SpellsSegment policy part segment ∧
      segmentsFrom policy current (index + 1) parts = .ok more ∧ segments = segment :: more := by
  rw [segmentsFrom] at h
  -- A wildcard, then a part of which nothing is left when it is cleaned, then any other part.
  split at h
  · next hwildcard =>
    split at h
    · next kept hkept =>
      obtain ⟨more, hmore, hreturn⟩ := bind_eq_ok_iff.mp h
      cases hreturn
      exact .inl ⟨kept, more, hwildcard, List.mem_of_getElem? hkept, hmore, rfl⟩
    · cases h
  · next hwildcard =>
    have hpart : isWildcard part = false := by simpa using hwildcard
    dsimp only at h
    split at h
    · next hempty => exact .inr (.inl ⟨hpart, String.isEmpty_iff.mp hempty, h⟩)
    · next hsegment =>
      obtain ⟨more, hmore, hreturn⟩ := bind_eq_ok_iff.mp h
      cases hreturn
      exact .inr (.inr ⟨_, more, ⟨hpart, rfl, by simpa using hsegment⟩, hmore, rfl⟩)

/-- A segment is kept from where the file is now, or some part of the buffer spells it out. -/
theorem mem_segmentsFrom {parts segments : List String}
    (h : segmentsFrom policy current index parts = .ok segments) {segment : String}
    (hmem : segment ∈ segments) :
    segment ∈ current ∨ ∃ part ∈ parts, SpellsSegment policy part segment := by
  induction parts generalizing index segments with
  | nil =>
    cases h
    cases hmem
  | cons part parts ih =>
    have hlater : (segment ∈ current ∨ ∃ part ∈ parts, SpellsSegment policy part segment) →
        segment ∈ current ∨ ∃ later ∈ part :: parts, SpellsSegment policy later segment := by
      rintro (hkept | ⟨later, hlater, hspells⟩)
      · exact .inl hkept
      · exact .inr ⟨later, List.mem_cons_of_mem _ hlater, hspells⟩
    rcases segmentsFrom_cons h with ⟨kept, more, -, hkept, hmore, rfl⟩ | ⟨-, -, hmore⟩ |
      ⟨first, more, hspells, hmore, rfl⟩
    · rcases List.mem_cons.mp hmem with rfl | hmem
      · exact .inl hkept
      · exact hlater (ih hmore hmem)
    · exact hlater (ih hmore hmem)
    · rcases List.mem_cons.mp hmem with rfl | hmem
      · exact .inr ⟨part, List.mem_cons_self, hspells⟩
      · exact hlater (ih hmore hmem)

/-- Every segment that a part spells out is there. -/
theorem segment_mem_segmentsFrom {parts segments : List String}
    (h : segmentsFrom policy current index parts = .ok segments) {part segment : String}
    (hpart : part ∈ parts) (hspells : SpellsSegment policy part segment) : segment ∈ segments := by
  induction parts generalizing index segments with
  | nil => cases hpart
  | cons first parts ih =>
    obtain ⟨hplain, hsegment, hne⟩ := hspells
    rcases segmentsFrom_cons h with ⟨kept, more, hwildcard, -, hmore, rfl⟩ | ⟨-, hempty, hmore⟩ |
      ⟨found, more, ⟨-, hfound, -⟩, hmore, rfl⟩
    · rcases List.mem_cons.mp hpart with rfl | hpart
      · rw [hplain] at hwildcard
        cases hwildcard
      · exact List.mem_cons_of_mem _ (ih hmore hpart)
    · rcases List.mem_cons.mp hpart with rfl | hpart
      · exact absurd (hsegment.symm.trans hempty) hne
      · exact ih hmore hpart
    · rcases List.mem_cons.mp hpart with rfl | hpart
      · rw [← hsegment, hfound]
        exact List.mem_cons_self
      · exact List.mem_cons_of_mem _ (ih hmore hpart)

/-- No part contributes more than one segment. -/
theorem length_segmentsFrom_le {parts segments : List String}
    (h : segmentsFrom policy current index parts = .ok segments) :
    segments.length ≤ parts.length := by
  induction parts generalizing index segments with
  | nil =>
    cases h
    exact Nat.le_refl _
  | cons part parts ih =>
    rcases segmentsFrom_cons h with ⟨kept, more, -, -, hmore, rfl⟩ | ⟨-, -, hmore⟩ |
      ⟨segment, more, -, hmore, rfl⟩
    · exact Nat.succ_le_succ (ih hmore)
    · exact Nat.le_succ_of_le (ih hmore)
    · exact Nat.succ_le_succ (ih hmore)

/-- Without wildcards the segments are those that the parts spell out, wherever the file is now. -/
theorem segmentsFrom_of_plain {parts : List String}
    (hplain : ∀ part ∈ parts, isWildcard part = false) :
    segmentsFrom policy current index parts =
      .ok ((parts.map (literalSegment policy)).filter fun segment => !segment.isEmpty) := by
  induction parts generalizing index with
  | nil => rfl
  | cons part parts ih =>
    have hpart : isWildcard part = false := hplain part List.mem_cons_self
    have hparts : ∀ later ∈ parts, isWildcard later = false :=
      fun later hlater => hplain later (List.mem_cons_of_mem _ hlater)
    rw [segmentsFrom, hpart, if_neg Bool.false_ne_true, List.map_cons]
    dsimp only
    cases hempty : (literalSegment policy part).isEmpty with
    | true =>
      rw [List.filter_cons_of_neg (by simp [hempty]), if_pos rfl]
      exact ih hparts
    | false =>
      rw [List.filter_cons_of_pos (by simp [hempty]), if_neg Bool.false_ne_true, ih hparts]
      rfl

end Segments

/-! ## Segments of the file's place -/

/-- The directories that a file is in are parts of its path. -/
theorem mem_currentSegments {folders : List ImportFolder} {path segment : String}
    (h : segment ∈ currentSegments folders path) : segment ∈ locationParts path := by
  unfold currentSegments at h
  split at h
  · next folder _ =>
    unfold ImportFolder.relativeDirs? at h
    cases hdepth : folder.depthAbove? path with
    | none =>
      rw [hdepth] at h
      cases h
    | some depth =>
      rw [hdepth] at h
      exact List.mem_of_mem_drop (List.dropLast_subset _ h)
  · cases h

/-! ## Destinations -/

section Destinations

variable {buffers : Buffers} {folders : List ImportFolder} {path : String}
  {policy : SanitizePolicy} {destination : Destination}

/-- The segments that are asked for: the ones of the buffer if it was written, else the file's. -/
theorem askedSegments_eq_ok_iff {current found : List String} :
    askedSegments buffers policy current = .ok found ↔
      if buffers.subfolderWritten then segments policy current buffers.subfolder = .ok found
      else found = current := by
  unfold askedSegments
  split
  · exact Iff.rfl
  · rw [Except.ok.injEq, eq_comm]

theorem segments_of_resolve (h : resolve buffers folders path policy = .ok (some destination)) :
    ∃ found, found ≠ [] ∧ destination.subfolder = "/".intercalate found ∧
      if buffers.subfolderWritten then
        segments policy (currentSegments folders path) buffers.subfolder = .ok found
      else
        found = currentSegments folders path := by
  obtain ⟨-, -, found, hasked, hne, hsubfolder⟩ := resolve_eq_some_iff.mp h
  exact ⟨found, hne, hsubfolder, askedSegments_eq_ok_iff.mp hasked⟩

/-- Where a segment of a destination comes from. -/
theorem origin_of_segment {found : List String} {segment : String}
    (hfound : if buffers.subfolderWritten then
        segments policy (currentSegments folders path) buffers.subfolder = .ok found
      else
        found = currentSegments folders path)
    (hmem : segment ∈ found) :
    segment ∈ locationParts path ∨ buffers.subfolderWritten = true ∧
      ∃ part ∈ Text.split Marker.separator buffers.subfolder,
        SpellsSegment policy part segment := by
  split at hfound
  · next hwritten =>
    rcases mem_segmentsFrom hfound hmem with hkept | hspelt
    · exact .inl (mem_currentSegments hkept)
    · exact .inr ⟨hwritten, hspelt⟩
  · rw [hfound] at hmem
    exact .inl (mem_currentSegments hmem)

/-- The pieces of the subfolder of a destination are its segments, each of them one piece. -/
theorem pieces_of_resolve (h : resolve buffers folders path policy = .ok (some destination)) :
    ∃ found, found ≠ [] ∧ Text.split '/' destination.subfolder = found ∧
      (∀ piece ∈ found, Path.IsPiece piece) ∧
      if buffers.subfolderWritten then
        segments policy (currentSegments folders path) buffers.subfolder = .ok found
      else
        found = currentSegments folders path := by
  obtain ⟨found, hne, hsubfolder, hfound⟩ := segments_of_resolve h
  have hnames : ∀ piece ∈ found, Path.IsPiece piece := by
    intro piece hpiece
    rcases origin_of_segment hfound hpiece with hkept | ⟨-, part, -, hspells⟩
    · exact isPiece_of_mem_locationParts hkept
    · exact ⟨hspells.2.2, slash_not_mem_of_spellsSegment hspells⟩
  refine ⟨found, hne, ?_, hnames, hfound⟩
  rw [hsubfolder]
  exact Text.split_slash_intercalate hne fun piece hpiece => (hnames piece hpiece).slash_not_mem

/-- A subfolder is seen from the folder, as its first segment is not empty. -/
theorem isAbsolute_subfolder (h : resolve buffers folders path policy = .ok (some destination)) :
    Path.isAbsolute destination.subfolder = false := by
  obtain ⟨found, -, hsplit, hnames, -⟩ := pieces_of_resolve h
  refine Path.isAbsolute_of_split fun piece hpiece => ?_
  rw [hsplit] at hpiece
  exact (hnames piece hpiece).ne_empty

end Destinations

end Placement

end MediaNaming
