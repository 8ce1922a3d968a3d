import MediaNaming.Proofs.Placement.Segments
import MediaNaming.Script.Pass

/-!
# Wildcards keep their positions

A wildcard stands for the segment that the file has now at the same position of the subfolder.
Positions count the parts that become segments: those of which nothing is left when they are cleaned
are passed over and shift none. Only a wildcard behind the last segment of the file has nothing to
stand for.
-/

namespace MediaNaming

namespace Placement

section Parts

variable {policy : SanitizePolicy} {current : List String} {index : Nat}

/-! ## Parts that become segments -/

/-- A part becomes a segment if it is a wildcard or something is left of it when it is cleaned. -/
def keepsPart (policy : SanitizePolicy) (part : String) : Bool :=
  isWildcard part || !(literalSegment policy part).isEmpty

/-- The parts of a subfolder that become segments, in order. -/
def keptParts (policy : SanitizePolicy) (subfolder : String) : List String :=
  (Text.split Marker.separator subfolder).filter (keepsPart policy)

/-- What a part becomes at a position; a wildcard what the file has there, if that is something. -/
def segmentAt? (policy : SanitizePolicy) (current : List String) (index : Nat) (part : String) :
    Option String :=
  if isWildcard part then current[index]? else some (literalSegment policy part)

theorem segmentAt?_eq_none_iff {part : String} :
    segmentAt? policy current index part = none ↔
      isWildcard part = true ∧ current.length ≤ index := by
  unfold segmentAt?
  split <;> simp [*]

theorem lt_length_of_segmentAt? {part segment : String}
    (h : segmentAt? policy current index part = some segment) (hwildcard : isWildcard part = true) :
    index < current.length := by
  refine Nat.lt_of_not_le fun hindex => ?_
  rw [segmentAt?_eq_none_iff.mpr ⟨hwildcard, hindex⟩] at h
  cases h

theorem segmentsFrom_of_dropped {part : String} (hpart : keepsPart policy part = false)
    (parts : List String) :
    segmentsFrom policy current index (part :: parts) =
      segmentsFrom policy current index parts := by
  obtain ⟨hplain, hempty⟩ : isWildcard part = false ∧ (literalSegment policy part).isEmpty = true :=
    by simpa [keepsPart] using hpart
  simp [segmentsFrom, hplain, hempty]

theorem segmentsFrom_of_kept {part : String} (hpart : keepsPart policy part = true)
    (parts : List String) :
    segmentsFrom policy current index (part :: parts) =
      match segmentAt? policy current index part with
      | some segment =>
        segmentsFrom policy current (index + 1) parts >>= fun more => .ok (segment :: more)
      | none => .error (.wildcardOutOfRange index) := by
  rw [segmentsFrom, segmentAt?]
  cases hwildcard : isWildcard part with
  | true =>
    cases current[index]? with
    | some kept => rfl
    | none => rfl
  | false =>
    have hsegment : (literalSegment policy part).isEmpty = false := by
      simpa [keepsPart, hwildcard] using hpart
    simp only [hsegment, Bool.false_eq_true, ↓reduceIte]
    rfl

/-- Parts of which nothing is left make no difference, wherever they stand. -/
theorem segmentsFrom_filter (parts : List String) :
    segmentsFrom policy current index (parts.filter (keepsPart policy)) =
      segmentsFrom policy current index parts := by
  induction parts generalizing index with
  | nil => rfl
  | cons part parts ih =>
    cases hpart : keepsPart policy part with
    | false =>
      rw [List.filter_cons_of_neg (by simp [hpart]), segmentsFrom_of_dropped hpart]
      exact ih
    | true =>
      rw [List.filter_cons_of_pos hpart, segmentsFrom_of_kept hpart, segmentsFrom_of_kept hpart, ih]

/-! ## Segments at their positions -/

/-- Every part becomes the segment at its position, where the first one has position `index`. -/
structure Fills (policy : SanitizePolicy) (current : List String) (index : Nat)
    (parts found : List String) : Prop where
  length_eq : found.length = parts.length
  segment : ∀ i part, parts[i]? = some part →
    found[i]? = segmentAt? policy current (index + i) part

theorem fills_nil_iff {found : List String} :
    Fills policy current index [] found ↔ found = [] := by
  constructor
  · intro h
    exact List.eq_nil_of_length_eq_zero h.length_eq
  · rintro rfl
    exact ⟨rfl, fun i part hpart => by simp at hpart⟩

theorem fills_cons_iff {part : String} {parts found : List String} :
    Fills policy current index (part :: parts) found ↔
      ∃ segment more, found = segment :: more ∧
        segmentAt? policy current index part = some segment ∧
        Fills policy current (index + 1) parts more := by
  have hshift : ∀ i, index + 1 + i = index + (i + 1) := by omega
  constructor
  · intro h
    obtain ⟨segment, more, rfl⟩ := List.exists_cons_of_length_eq_add_one h.length_eq
    refine ⟨segment, more, rfl, (h.segment 0 part rfl).symm, ?_, ?_⟩
    · exact Nat.succ_inj.mp h.length_eq
    · intro i later hlater
      rw [hshift]
      exact h.segment (i + 1) later hlater
  · rintro ⟨segment, more, rfl, hsegment, hmore⟩
    refine ⟨congrArg Nat.succ hmore.length_eq, ?_⟩
    intro i later hlater
    cases i with
    | zero =>
      cases hlater
      exact hsegment.symm
    | succ i =>
      rw [← hshift]
      exact hmore.segment i later hlater

theorem segmentsFrom_eq_ok_iff {parts found : List String}
    (hparts : ∀ part ∈ parts, keepsPart policy part = true) :
    segmentsFrom policy current index parts = .ok found ↔
      Fills policy current index parts found := by
  induction parts generalizing index found with
  | nil =>
    rw [fills_nil_iff, segmentsFrom]
    simp [eq_comm]
  | cons part parts ih =>
    obtain ⟨hpart, hrest⟩ := List.forall_mem_cons.mp hparts
    rw [segmentsFrom_of_kept hpart, fills_cons_iff]
    cases hsegment : segmentAt? policy current index part with
    | none => simp
    | some segment =>
      simp only [bind_eq_ok_iff, ih hrest, Except.ok.injEq, Option.some.injEq]
      constructor
      · rintro ⟨more, hmore, rfl⟩
        exact ⟨segment, more, rfl, rfl, hmore⟩
      · rintro ⟨_, more, rfl, rfl, hmore⟩
        exact ⟨more, hmore, rfl⟩

/-! ## Wildcards that have nothing to stand for -/

def WildcardAt (parts : List String) (i : Nat) : Prop :=
  ∃ part, parts[i]? = some part ∧ isWildcard part = true

@[simp] theorem not_wildcardAt_nil (i : Nat) : ¬ WildcardAt [] i := by
  simp [WildcardAt]

@[simp] theorem wildcardAt_zero_iff {part : String} {parts : List String} :
    WildcardAt (part :: parts) 0 ↔ isWildcard part = true := by
  simp [WildcardAt]

@[simp] theorem wildcardAt_succ_iff {part : String} {parts : List String} {i : Nat} :
    WildcardAt (part :: parts) (i + 1) ↔ WildcardAt parts i :=
  Iff.rfl

/-- The first wildcard behind the segments of the file; the first part has position `index`. -/
structure FirstOutOfRange (current : List String) (index : Nat) (parts : List String) (i : Nat) :
    Prop where
  wildcard : WildcardAt parts i
  outside : current.length ≤ index + i
  earlier : ∀ j < i, WildcardAt parts j → index + j < current.length

theorem firstOutOfRange_iff {parts : List String} {i : Nat} :
    FirstOutOfRange current index parts i ↔
      WildcardAt parts i ∧ current.length ≤ index + i ∧
        ∀ j < i, WildcardAt parts j → index + j < current.length :=
  ⟨fun h => ⟨h.wildcard, h.outside, h.earlier⟩, fun h => ⟨h.1, h.2.1, h.2.2⟩⟩

theorem firstOutOfRange_zero {part : String} {parts : List String}
    (hwildcard : isWildcard part = true) (hindex : current.length ≤ index) (i : Nat) :
    FirstOutOfRange current index (part :: parts) i ↔ i = 0 := by
  constructor
  · intro h
    cases i with
    | zero => rfl
    | succ i =>
      have hfirst := h.earlier 0 (Nat.succ_pos i) (wildcardAt_zero_iff.mpr hwildcard)
      omega
  · rintro rfl
    exact ⟨wildcardAt_zero_iff.mpr hwildcard, hindex, fun j hj => absurd hj (Nat.not_lt_zero j)⟩

theorem firstOutOfRange_succ {part : String} {parts : List String}
    (hinside : isWildcard part = true → index < current.length) (i : Nat) :
    FirstOutOfRange current index (part :: parts) i ↔
      ∃ k, i = k + 1 ∧ FirstOutOfRange current (index + 1) parts k := by
  have hshift : ∀ k, index + 1 + k = index + (k + 1) := by omega
  constructor
  · rintro ⟨hwildcard, houtside, hearlier⟩
    cases i with
    | zero =>
      have hindex := hinside (wildcardAt_zero_iff.mp hwildcard)
      omega
    | succ k =>
      refine ⟨k, rfl, wildcardAt_succ_iff.mp hwildcard, (hshift k).symm ▸ houtside, ?_⟩
      intro j hj hwild
      rw [hshift]
      exact hearlier (j + 1) (Nat.succ_lt_succ hj) hwild
  · rintro ⟨k, rfl, hwildcard, houtside, hearlier⟩
    refine ⟨wildcardAt_succ_iff.mpr hwildcard, hshift k ▸ houtside, ?_⟩
    intro j hj hwild
    cases j with
    | zero => exact hinside (wildcardAt_zero_iff.mp hwild)
    | succ j =>
      rw [← hshift]
      exact hearlier j (Nat.lt_of_succ_lt_succ hj) hwild

theorem segmentsFrom_eq_error_iff {parts : List String} {error : PlacementError}
    (hparts : ∀ part ∈ parts, keepsPart policy part = true) :
    segmentsFrom policy current index parts = .error error ↔
      ∃ i, error = .wildcardOutOfRange (index + i) ∧ FirstOutOfRange current index parts i := by
  induction parts generalizing index with
  | nil =>
    simp only [segmentsFrom, reduceCtorEq, false_iff]
    rintro ⟨i, -, h⟩
    exact not_wildcardAt_nil i h.wildcard
  | cons part parts ih =>
    obtain ⟨hpart, hrest⟩ := List.forall_mem_cons.mp hparts
    rw [segmentsFrom_of_kept hpart]
    cases hsegment : segmentAt? policy current index part with
    | none =>
      obtain ⟨hwildcard, hindex⟩ := segmentAt?_eq_none_iff.mp hsegment
      simp [firstOutOfRange_zero hwildcard hindex, eq_comm]
    | some segment =>
      -- What follows fails at the same place, which is one further from here.
      have hshift : ∀ k, index + 1 + k = index + (k + 1) := by omega
      dsimp only
      rw [bind_eq_error_iff, ih hrest]
      constructor
      · rintro (⟨k, rfl, hfirst⟩ | ⟨more, -, hmore⟩)
        · refine ⟨k + 1, by rw [hshift], ?_⟩
          exact (firstOutOfRange_succ (lt_length_of_segmentAt? hsegment) _).mpr ⟨k, rfl, hfirst⟩
        · cases hmore
      · rintro ⟨i, rfl, hi⟩
        obtain ⟨k, rfl, hfirst⟩ :=
          (firstOutOfRange_succ (lt_length_of_segmentAt? hsegment) _).mp hi
        exact .inl ⟨k, by rw [hshift], hfirst⟩

/-! ## Subfolders -/

theorem segments_eq_segmentsFrom (policy : SanitizePolicy) (current : List String)
    (subfolder : String) :
    segments policy current subfolder =
      segmentsFrom policy current 0 (keptParts policy subfolder) :=
  (segmentsFrom_filter _).symm

theorem keepsPart_of_mem_keptParts {subfolder : String} :
    ∀ part ∈ keptParts policy subfolder, keepsPart policy part = true :=
  fun _ hpart => (List.mem_filter.mp hpart).2

theorem segments_eq_ok_iff {subfolder : String} {found : List String} :
    segments policy current subfolder = .ok found ↔
      Fills policy current 0 (keptParts policy subfolder) found := by
  rw [segments_eq_segmentsFrom]
  exact segmentsFrom_eq_ok_iff keepsPart_of_mem_keptParts

theorem segments_eq_error_iff {subfolder : String} {error : PlacementError} :
    segments policy current subfolder = .error error ↔
      ∃ i, error = .wildcardOutOfRange i ∧
        FirstOutOfRange current 0 (keptParts policy subfolder) i := by
  rw [segments_eq_segmentsFrom, segmentsFrom_eq_error_iff keepsPart_of_mem_keptParts]
  simp only [Nat.zero_add]

/-- Where every wildcard has something to stand for, the segments are found. -/
theorem exists_segments {subfolder : String}
    (h : ∀ i, WildcardAt (keptParts policy subfolder) i → i < current.length) :
    ∃ found, segments policy current subfolder = .ok found := by
  cases hsegments : segments policy current subfolder with
  | ok found => exact ⟨found, rfl⟩
  | error error =>
    obtain ⟨i, -, hfirst⟩ := segments_eq_error_iff.mp hsegments
    have hinside := h i hfirst.wildcard
    have houtside := hfirst.outside
    omega

/-- A wildcard for each segment of the file keeps them all. -/
theorem segments_of_wildcards {subfolder : String}
    (hwild : ∀ part ∈ keptParts policy subfolder, isWildcard part = true)
    (hlength : (keptParts policy subfolder).length = current.length) :
    segments policy current subfolder = .ok current := by
  refine segments_eq_ok_iff.mpr ⟨hlength.symm, fun i part hpart => ?_⟩
  rw [segmentAt?, if_pos (hwild part (List.mem_of_getElem? hpart)), Nat.zero_add]

end Parts

/-! ## Stars -/

/-- So many stars with slashes between them. -/
def stars (n : Nat) : String :=
  "/".intercalate (List.replicate n "*")

theorem stars_add_two (n : Nat) : stars (n + 2) = "*/" ++ stars (n + 1) := by
  simp [stars, List.replicate_succ, String.intercalate_cons_cons]

/-- The stars of a literal are wildcards, and the slashes separate them. -/
theorem split_markLiteral_stars (n : Nat) :
    Text.split Marker.separator (Marker.markLiteral (stars (n + 1))) =
      List.replicate (n + 1) "\uE001" := by
  induction n with
  | zero => decide +kernel
  | succ n ih =>
    have hchars : (Marker.markLiteral (stars (n + 2))).toList =
        "\uE001".toList ++ Marker.separator :: (Marker.markLiteral (stars (n + 1))).toList := by
      simp [stars_add_two, Marker.markLiteral, Marker.markChars, Marker.ofLiteralChar,
        Marker.wildcard]
    rw [Text.split_append_cons hchars, ih, List.replicate_succ]
    rfl

theorem keptParts_stars (policy : SanitizePolicy) (n : Nat) :
    keptParts policy (Marker.markLiteral (stars n)) = List.replicate n "\uE001" := by
  cases n with
  | zero =>
    -- Without stars there is one empty part, of which nothing is left under any policy.
    obtain ⟨removeIllegal, windowsCompatible⟩ := policy
    cases windowsCompatible <;> rfl
  | succ n =>
    rw [keptParts, split_markLiteral_stars, List.filter_replicate_of_pos]
    rfl

theorem segments_stars (policy : SanitizePolicy) (current : List String) :
    segments policy current (Marker.markLiteral (stars current.length)) = .ok current := by
  refine segments_of_wildcards ?_ ?_ <;> rw [keptParts_stars]
  · intro part hpart
    rw [List.eq_of_mem_replicate hpart]
    decide +kernel
  · exact List.length_replicate

section Resolving

variable {buffers : Buffers}

theorem joined_singleton (target : Target) (request : Request) (operand : Expr) :
    target.joined request [operand] = target.operandText request operand := by
  unfold Target.joined
  cases target.operandText request operand with
  | error error => rfl
  | ok text => exact congrArg Except.ok String.append_empty

theorem run_set_subfolder (request : Request) (buffers : Buffers) (literal : String) :
    Statement.run .placement request buffers (.set .subfolder [.text literal]) =
      .ok (.completed (buffers.set .subfolder (Marker.markLiteral literal))) := by
  rw [Statement.run, joined_singleton]
  rfl

/-- To ask for all segments that the file has is to ask for none. -/
theorem resolve_stars (hdestination : buffers.destinationWritten = true)
    (hsubfolder : buffers.subfolderWritten = false) (folders : List ImportFolder) (path : String)
    (policy : SanitizePolicy) :
    resolve (buffers.set .subfolder
        (Marker.markLiteral (stars (currentSegments folders path).length))) folders path policy =
      resolve buffers folders path policy := by
  have hstarred : askedSegments (buffers.set .subfolder
      (Marker.markLiteral (stars (currentSegments folders path).length))) policy
        (currentSegments folders path) =
      askedSegments buffers policy (currentSegments folders path) := by
    simp only [askedSegments, Buffers.set, Buffers.mark, Buffers.edit, hsubfolder, ↓reduceIte,
      segments_stars]
    rfl
  -- The destination was written, so both ask for something.
  have hasks : buffers.asksNothing = false :=
    Buffers.asksNothing_eq_false_iff.mpr (.inr (.inl hdestination))
  have hasksStarred : ∀ text, (buffers.set .subfolder text).asksNothing = false :=
    fun _ => Buffers.asksNothing_eq_false_iff.mpr (.inr (.inl hdestination))
  rw [resolve_of_asks (hasksStarred _), resolve_of_asks hasks, hstarred]
  rfl

end Resolving

/--
The parts that count become the segments one for one: a wildcard the segment that the file has at
the same position, any other part its cleaned text. That fails just when a wildcard has a position
behind the segments of the file, and then for the first such position and in no other way. So a
statement that sets the subfolder to as many stars as the file has segments changes nothing, if the
destination was written and the subfolder was not.
-/
theorem wildcards_keep_segments (policy : SanitizePolicy) :
    (∀ (current : List String) (subfolder : String),
      ((∀ i, WildcardAt (keptParts policy subfolder) i → i < current.length) →
        ∃ found, segments policy current subfolder = .ok found ∧
          found.length = (keptParts policy subfolder).length ∧
          ∀ (i : Nat) (part : String), (keptParts policy subfolder)[i]? = some part →
            found[i]? =
              if isWildcard part then current[i]? else some (literalSegment policy part)) ∧
      ∀ error, segments policy current subfolder = .error error ↔
        ∃ i, error = .wildcardOutOfRange i ∧ WildcardAt (keptParts policy subfolder) i ∧
          current.length ≤ i ∧
          ∀ j < i, WildcardAt (keptParts policy subfolder) j → j < current.length) ∧
    (∀ current : List String,
      segments policy current (Marker.markLiteral (stars current.length)) = .ok current) ∧
    ∀ (buffers : Buffers) (folders : List ImportFolder) (path : String) (request : Request),
      buffers.destinationWritten = true → buffers.subfolderWritten = false →
      ∃ starred,
        Statement.run .placement request buffers
          (.set .subfolder [.text (stars (currentSegments folders path).length)]) =
            .ok (.completed starred) ∧
        resolve starred folders path policy = resolve buffers folders path policy := by
  refine ⟨fun current subfolder => ⟨fun hinside => ?_, fun error => ?_⟩, segments_stars policy, ?_⟩
  · obtain ⟨found, hfound⟩ := exists_segments hinside
    obtain ⟨hlength, hsegment⟩ := segments_eq_ok_iff.mp hfound
    refine ⟨found, hfound, hlength, fun i part hpart => ?_⟩
    rw [hsegment i part hpart, segmentAt?, Nat.zero_add]
  · rw [segments_eq_error_iff]
    simp only [firstOutOfRange_iff, Nat.zero_add]
  · intro buffers folders path request hdestination hsubfolder
    refine ⟨_, ?_, resolve_stars hdestination hsubfolder folders path policy⟩
    exact run_set_subfolder request buffers _

/-- Blank parts and blanks around a wildcard shift nothing; a star behind a letter is none. -/
theorem wildcards_keep_segments_of_blanks :
    let subfolder := "\uE001\uE000 \uE000A\uE001\uE000 \uE001 "
    let library : ImportFolder :=
      { id := 1, name := "Library", location := "/lib", role := .destination }
    let request : Request :=
      { file := { id := 1, path := "/lib/S/T/a.mkv" }, anime := [], episodes := [] }
    let buffers : Buffers := { destination := "library", destinationWritten := true }
    keptParts {} subfolder = ["\uE001", "A\uE001", " \uE001 "] ∧
      (∀ i, WildcardAt (keptParts {} subfolder) i → i < ["S", "T", "U"].length) ∧
      (∃ found, segments {} ["S", "T", "U"] subfolder = .ok found ∧
        found[0]? = some "S" ∧ found[1]? = some "A*" ∧ found[2]? = some "U") ∧
      ∃ starred, Statement.run .placement request buffers (.set .subfolder [.text "*/*"]) =
          .ok (.completed starred) ∧
        resolve starred [library] request.file.path {} =
          resolve buffers [library] request.file.path {} := by
  intro subfolder library request buffers
  have hkept : keptParts {} subfolder = ["\uE001", "A\uE001", " \uE001 "] := by decide +kernel
  have hinside : ∀ i, WildcardAt (keptParts {} subfolder) i → i < ["S", "T", "U"].length := by
    rw [hkept]
    rintro i ⟨part, hpart, -⟩
    exact (List.getElem?_eq_some_iff.mp hpart).1
  obtain ⟨hsegments, -, hstars⟩ := wildcards_keep_segments {}
  obtain ⟨found, hfound, -, hsegment⟩ := (hsegments ["S", "T", "U"] subfolder).1 hinside
  rw [hkept] at hsegment
  refine ⟨hkept, hinside, ⟨found, hfound, ?_, ?_, ?_⟩, ?_⟩
  · exact (hsegment 0 _ rfl).trans (by decide +kernel)
  · exact (hsegment 1 _ rfl).trans (by decide +kernel)
  · exact (hsegment 2 _ rfl).trans (by decide +kernel)
  · have hcurrent : stars (currentSegments [library] request.file.path).length = "*/*" := by
      decide +kernel
    rw [← hcurrent]
    exact hstars buffers [library] request.file.path request rfl rfl

end Placement

end MediaNaming
