import MediaNaming.Proofs.Placement.Segments
import MediaNaming.Proofs.Text.Trimming

/-!
# Clean names

What sanitizing makes of a text is clean: nothing is left in it that the policy forbids. A clean
text stays what it is, so sanitizing a name once more changes nothing.
-/

namespace MediaNaming.SanitizePolicy

/-! ## Clean texts -/

/-- The text is fit to be a name: what is forbidden anywhere, on Windows or at its end is absent. -/
structure IsClean (policy : SanitizePolicy) (text : String) : Prop where
  not_control : ∀ c ∈ text.toList, Text.isControl c = false
  not_marker : ∀ c ∈ text.toList, c ≠ Marker.separator ∧ c ≠ Marker.wildcard
  not_slash : '/' ∉ text.toList
  not_forbidden : policy.windowsCompatible = true →
    ∀ c ∈ text.toList, c ∉ ['<', '>', ':', '"', '/', '\\', '|', '?', '*']
  not_trailing : policy.windowsCompatible = true →
    ∀ c, text.toList.getLast? = some c → c ≠ '.' ∧ c ≠ ' '

variable {policy : SanitizePolicy}

/-! ## Single characters -/

section Characters

variable {c image : Char}

theorem isIllegal_eq_false_iff :
    policy.isIllegal c = false ↔ c ≠ '/' ∧
      (policy.windowsCompatible = true → c ∉ ['<', '>', ':', '"', '/', '\\', '|', '?', '*']) := by
  unfold isIllegal
  cases policy.windowsCompatible with
  | true =>
    rw [if_pos rfl, ← Bool.not_eq_true, List.contains_iff_mem]
    constructor
    · intro h
      exact ⟨fun heq => h (by rw [heq]; decide), fun _ => h⟩
    · exact fun h => h.2 rfl
  | false => simp

theorem lookAlike?_ne_self (c : Char) : lookAlike? c ≠ some c := by
  unfold lookAlike?
  split <;> simp

/-- Sanitizing keeps the characters that are legal and neither controls nor markers. -/
theorem sanitizeChar_eq_self_iff :
    policy.sanitizeChar c = some c ↔
      Text.isControl c = false ∧ Marker.isMarker c = false ∧ policy.isIllegal c = false := by
  rw [← and_assoc, ← Bool.or_eq_false_iff]
  unfold sanitizeChar
  cases hhidden : Text.isControl c || Marker.isMarker c with
  | true => simp
  | false =>
    cases hillegal : policy.isIllegal c with
    | false => simp
    | true =>
      cases policy.removeIllegal with
      | true => simp
      | false => simpa using lookAlike?_ne_self c

/-- What looks like an illegal character is legal under every policy. -/
theorem sanitizeChar_lookAlike (h : lookAlike? c = some image) :
    policy.sanitizeChar image = some image := by
  rw [sanitizeChar_eq_self_iff, isIllegal_eq_false_iff]
  unfold lookAlike? at h
  split at h <;> cases h <;> exact ⟨by decide, by decide, by decide, fun _ => by decide⟩

/-- What becomes of a character is kept as it is. -/
theorem sanitizeChar_sanitizeChar (h : policy.sanitizeChar c = some image) :
    policy.sanitizeChar image = some image := by
  have hkept := h
  unfold sanitizeChar at h
  split at h
  · cases h
  · split at h
    · cases h
      exact hkept
    · split at h
      · cases h
      · exact sanitizeChar_lookAlike h

theorem isMarker_eq_false_iff :
    Marker.isMarker c = false ↔ c ≠ Marker.separator ∧ c ≠ Marker.wildcard := by
  simp [Marker.isMarker]

end Characters

/-! ## Whole texts -/

section Texts

variable {text : String}

theorem isClean_iff :
    policy.IsClean text ↔ (∀ c ∈ text.toList, policy.sanitizeChar c = some c) ∧
      (policy.windowsCompatible = true →
        ∀ c, text.toList.getLast? = some c → isTrailing c = false) := by
  have htrailing : ∀ c, isTrailing c = false ↔ c ≠ '.' ∧ c ≠ ' ' := by simp [isTrailing]
  simp only [sanitizeChar_eq_self_iff, isMarker_eq_false_iff, isIllegal_eq_false_iff, htrailing]
  constructor
  · intro h
    refine ⟨fun c hc => ⟨h.not_control c hc, h.not_marker c hc, ?_, ?_⟩, h.not_trailing⟩
    · rintro rfl
      exact h.not_slash hc
    · exact fun hwindows => h.not_forbidden hwindows c hc
  · rintro ⟨hchars, htrailing⟩
    exact {
      not_control := fun c hc => (hchars c hc).1
      not_marker := fun c hc => (hchars c hc).2.1
      not_slash := fun hslash => (hchars '/' hslash).2.2.1 rfl
      not_forbidden := fun hwindows c hc => (hchars c hc).2.2.2 hwindows
      not_trailing := htrailing }

theorem isClean_sanitize (policy : SanitizePolicy) (text : String) :
    policy.IsClean (policy.sanitize text) := by
  rw [isClean_iff, sanitize, String.toList_ofList]
  constructor
  · intro c hc
    obtain ⟨original, -, himage⟩ := mem_sanitizeChars hc
    exact sanitizeChar_sanitizeChar himage
  · intro hwindows c hlast
    rw [sanitizeChars, if_pos hwindows] at hlast
    exact Text.getLast?_dropTailWhile hlast

/-- A clean text stays what it is, and no other text does. -/
theorem sanitize_eq_self_iff : policy.sanitize text = text ↔ policy.IsClean text := by
  constructor
  · intro h
    exact h ▸ isClean_sanitize policy text
  · intro h
    obtain ⟨hchars, htrailing⟩ := isClean_iff.mp h
    have hkept : text.toList.filterMap policy.sanitizeChar = text.toList :=
      (List.filterMap_congr hchars).trans List.filterMap_some
    rw [sanitize, sanitizeChars, hkept]
    split
    · next hwindows =>
      rw [Text.dropTailWhile_eq_self (htrailing hwindows), String.ofList_toList]
    · rw [String.ofList_toList]

theorem not_isDots_of_isClean (hwindows : policy.windowsCompatible = true)
    (h : policy.IsClean text) : ¬ Path.IsDots text := by
  have hlast : text.toList.getLast? ≠ some '.' := fun hlast =>
    (h.not_trailing hwindows '.' hlast).1 rfl
  rintro (rfl | rfl)
  · exact hlast (by decide)
  · exact hlast (by decide)

end Texts

/-! ## Where only slashes are illegal -/

section Slashes

theorem sanitizeChars_of_not_windows (hwindows : policy.windowsCompatible = false)
    (cs : List Char) : policy.sanitizeChars cs = cs.filterMap policy.sanitizeChar := by
  rw [sanitizeChars, hwindows, if_neg Bool.false_ne_true]

/-- Illegal characters are replaced one by one, so that none but the hidden ones are missing. -/
theorem isSome_sanitizeChar (hwindows : policy.windowsCompatible = false)
    (hreplace : policy.removeIllegal = false) (c : Char) :
    (policy.sanitizeChar c).isSome = (!Text.isControl c && !Marker.isMarker c) := by
  unfold sanitizeChar isIllegal
  rw [hwindows, hreplace, ← Bool.not_or]
  cases Text.isControl c || Marker.isMarker c with
  | true => rfl
  | false =>
    cases hslash : c == '/' with
    | true =>
      rw [beq_iff_eq.mp hslash]
      rfl
    | false => rfl

/-- Where illegal characters are removed, those that are kept stay what they are. -/
theorem sanitizeChar_eq_guard (hwindows : policy.windowsCompatible = false)
    (hremove : policy.removeIllegal = true) :
    policy.sanitizeChar =
      Option.guard fun c => !Text.isControl c && !Marker.isMarker c && c != '/' := by
  funext c
  unfold sanitizeChar isIllegal Option.guard
  beta_reduce
  rw [hwindows, hremove, ← Bool.not_or, bne]
  cases Text.isControl c || Marker.isMarker c with
  | true => rfl
  | false => cases c == '/' <;> rfl

end Slashes

/--
What sanitizing makes of a text is clean, and for Windows no dots; exactly the clean texts are left
as they are, so to sanitize a second time changes nothing. Where only slashes are illegal, each
character but controls and markers leaves one if slashes are replaced, and if they are removed all
the others stay what and where they are.
-/
theorem sanitized_names_are_clean (policy : SanitizePolicy) (text : String) :
    policy.IsClean (policy.sanitize text) ∧
    (policy.windowsCompatible = true → ¬ Path.IsDots (policy.sanitize text)) ∧
    policy.sanitize (policy.sanitize text) = policy.sanitize text ∧
    (policy.sanitize text = text ↔ policy.IsClean text) ∧
    (policy.windowsCompatible = false → policy.removeIllegal = false →
      (policy.sanitize text).length =
        text.toList.countP fun c => !Text.isControl c && !Marker.isMarker c) ∧
    (policy.windowsCompatible = false → policy.removeIllegal = true →
      (policy.sanitize text).toList =
        text.toList.filter fun c => !Text.isControl c && !Marker.isMarker c && c != '/') := by
  have hclean := isClean_sanitize policy text
  refine ⟨hclean, fun hwindows => not_isDots_of_isClean hwindows hclean,
    sanitize_eq_self_iff.mpr hclean, sanitize_eq_self_iff, ?_, ?_⟩
  · intro hwindows hreplace
    rw [← String.length_toList, sanitize, String.toList_ofList,
      sanitizeChars_of_not_windows hwindows, List.length_filterMap_eq_countP]
    exact List.countP_congr fun c _ => by rw [isSome_sanitizeChar hwindows hreplace]
  · intro hwindows hremove
    rw [sanitize, String.toList_ofList, sanitizeChars_of_not_windows hwindows,
      sanitizeChar_eq_guard hwindows hremove, List.filterMap_eq_filter]

/--
A title in which each policy finds something to do. What is left of it for Windows is left as it is.
-/
theorem sanitized_names_are_clean_of_title :
    let title := "a/b:\tc\uE001?. "
    let windows : SanitizePolicy := ⟨true, true⟩
    windows.sanitize title = "abc" ∧ ¬ Path.IsDots (windows.sanitize title) ∧
      (windows.IsClean "abc" ∧ windows.sanitize "abc" = "abc") ∧
      ((sanitize ⟨false, false⟩ title).length = 8 ∧
        title.toList.countP (fun c => !Text.isControl c && !Marker.isMarker c) = 8) ∧
      (sanitize ⟨true, false⟩ title).toList = "ab:c?. ".toList := by
  intro title windows
  have hwindows := sanitized_names_are_clean windows title
  have hreplaced := sanitized_names_are_clean ⟨false, false⟩ title
  have hremoved := sanitized_names_are_clean ⟨true, false⟩ title
  have habc : windows.sanitize title = "abc" := by decide +kernel
  have hcount : title.toList.countP (fun c => !Text.isControl c && !Marker.isMarker c) = 8 := by
    decide +kernel
  refine ⟨habc, hwindows.2.1 rfl, ⟨habc ▸ hwindows.1, habc ▸ hwindows.2.2.1⟩, ⟨?_, hcount⟩, ?_⟩
  · exact (hreplaced.2.2.2.2.1 rfl rfl).trans hcount
  · exact (hremoved.2.2.2.2.2 rfl rfl).trans (by decide +kernel)

end MediaNaming.SanitizePolicy
