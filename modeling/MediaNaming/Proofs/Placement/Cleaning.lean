import MediaNaming.Placement.Resolve
import MediaNaming.Proofs.Text.Trimming

/-!
# What cleaning uncovers

Names are trimmed and then sanitized. Sanitizing drops characters, and a blank that stood behind a
dropped one is then at an end of the name. Where the blanks of a sanitized text are depends on the
characters that are kept, and not on what becomes of them.
-/

namespace MediaNaming.SanitizePolicy

variable {policy : SanitizePolicy}

/-! ## Dropped characters -/

/-- Nothing becomes of the character, wherever it stands. -/
def drops (policy : SanitizePolicy) (c : Char) : Bool :=
  (policy.sanitizeChar c).isNone

/-- Nothing becomes of the character if only such ones follow it. -/
def dropsAtEnd (policy : SanitizePolicy) (c : Char) : Bool :=
  (policy.sanitizeChar c).all fun image => policy.windowsCompatible && isTrailing image

/-- The characters that something becomes of. -/
def kept (policy : SanitizePolicy) (cs : List Char) : List Char :=
  (Text.dropTailWhile policy.dropsAtEnd cs).filter fun c => !policy.drops c

/-- Dropping trailing characters from what is mapped is dropping them before. -/
theorem sanitizeChars_eq (policy : SanitizePolicy) (cs : List Char) :
    policy.sanitizeChars cs =
      (Text.dropTailWhile policy.dropsAtEnd cs).filterMap policy.sanitizeChar := by
  have hmapped : (Text.dropTailWhile policy.dropsAtEnd cs).filterMap policy.sanitizeChar =
      Text.dropTailWhile (fun image => policy.windowsCompatible && isTrailing image)
        (cs.filterMap policy.sanitizeChar) := by
    have hreverse : (cs.filterMap policy.sanitizeChar).reverse =
        cs.reverse.filterMap policy.sanitizeChar := List.filterMap_reverse.symm
    unfold Text.dropTailWhile
    rw [List.filterMap_reverse, hreverse, List.dropWhile_filterMap]
    rfl
  rw [hmapped]
  unfold sanitizeChars
  cases policy.windowsCompatible with
  | true => rfl
  | false =>
    symm
    exact List.rdropWhile_eq_self_iff.mpr fun _ => Bool.false_ne_true

/-! ## Blanks of sanitized texts -/

theorem isBlank_lookAlike? {c image : Char} (h : lookAlike? c = some image) :
    Text.isBlank image = Text.isBlank c := by
  unfold lookAlike? at h
  split at h <;> cases h <;> rfl

/-- What a character becomes is a blank just when the character is one. -/
theorem isBlank_sanitizeChar {c image : Char} (h : policy.sanitizeChar c = some image) :
    Text.isBlank image = Text.isBlank c := by
  unfold sanitizeChar at h
  split at h
  · cases h
  · split at h
    · cases h
      rfl
    · split at h
      · cases h
      · exact isBlank_lookAlike? h

theorem map_isBlank_filterMap (policy : SanitizePolicy) (cs : List Char) :
    (cs.filterMap policy.sanitizeChar).map Text.isBlank =
      (cs.filter fun c => !policy.drops c).map Text.isBlank := by
  induction cs with
  | nil => rfl
  | cons c cs ih =>
    cases hc : policy.sanitizeChar c with
    | none => simp [drops, hc, ih]
    | some image => simp [drops, hc, ih, isBlank_sanitizeChar hc]

/-- A sanitized text has blanks where the characters that are kept are blanks. -/
theorem map_isBlank_sanitizeChars (policy : SanitizePolicy) (cs : List Char) :
    (policy.sanitizeChars cs).map Text.isBlank = (policy.kept cs).map Text.isBlank := by
  rw [sanitizeChars_eq]
  exact policy.map_isBlank_filterMap _

/-- Neither the first nor the last of the characters that are kept is a blank. -/
structure CoversNoBlank (policy : SanitizePolicy) (text : String) : Prop where
  start : (policy.kept text.toList).head?.any Text.isBlank = false
  finish : (policy.kept text.toList).getLast?.any Text.isBlank = false

/-- Nothing but blanks is kept. -/
def keepsBlanks (policy : SanitizePolicy) (text : String) : Bool :=
  (policy.kept text.toList).all Text.isBlank

section Texts

variable {text : String}

/-- A sanitized text is trimmed just when what is dropped at its ends covers no blank. -/
theorem isTrimmed_sanitize (hne : policy.sanitize text ≠ "") :
    Text.IsTrimmed (policy.sanitize text) ↔ policy.CoversNoBlank text := by
  have hblanks := policy.map_isBlank_sanitizeChars text.toList
  have hany : ∀ first : Option Char, first.any Text.isBlank = (first.map Text.isBlank).any id := by
    intro first
    cases first <;> rfl
  have hstart : (policy.sanitize text).toList.head?.any Text.isBlank =
      (policy.kept text.toList).head?.any Text.isBlank := by
    rw [hany, hany, ← List.head?_map, ← List.head?_map, sanitize, String.toList_ofList, hblanks]
  have hfinish : (policy.sanitize text).toList.getLast?.any Text.isBlank =
      (policy.kept text.toList).getLast?.any Text.isBlank := by
    rw [hany, hany, ← List.getLast?_map, ← List.getLast?_map, sanitize, String.toList_ofList,
      hblanks]
  constructor
  · intro h
    exact ⟨hstart.symm.trans h.start, hfinish.symm.trans h.finish⟩
  · intro h
    exact ⟨hne, hstart.trans h.start, hfinish.trans h.finish⟩

theorem isBlankText_sanitize (policy : SanitizePolicy) (text : String) :
    Text.isBlankText (policy.sanitize text) = policy.keepsBlanks text := by
  have hblanks := policy.map_isBlank_sanitizeChars text.toList
  have hall : ∀ cs : List Char, cs.all Text.isBlank = (cs.map Text.isBlank).all id := by
    intro cs
    rw [List.all_map]
    rfl
  rw [Text.isBlankText, keepsBlanks, hall, hall, sanitize, String.toList_ofList, hblanks]

end Texts

end MediaNaming.SanitizePolicy
