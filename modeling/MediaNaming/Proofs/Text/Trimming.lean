import Mathlib.Data.List.DropRight
import Mathlib.Data.List.TakeWhile
import MediaNaming.Text.Blank

/-!
# Trimmed texts

When nothing is left of a trimmed text, and texts that blanks stand at neither end of.
-/

namespace MediaNaming.Text

/-! ## Dropping at the ends -/

theorem dropTailWhile_eq_rdropWhile (p : Char → Bool) (cs : List Char) :
    dropTailWhile p cs = cs.rdropWhile p := rfl

theorem dropTailWhile_eq_self {p : Char → Bool} {cs : List Char}
    (h : ∀ c, cs.getLast? = some c → p c = false) : dropTailWhile p cs = cs := by
  rw [dropTailWhile_eq_rdropWhile, List.rdropWhile_eq_self_iff]
  intro hne hlast
  rw [h _ (List.getLast?_eq_some_getLast hne)] at hlast
  cases hlast

theorem trimChars_eq_nil_iff {cs : List Char} :
    trimChars cs = [] ↔ ∀ c ∈ cs, isBlank c = true := by
  -- What is left of a text of blanks behind its first blanks is nothing.
  rw [trimChars, dropTailWhile_eq_rdropWhile, List.rdropWhile_eq_nil_iff,
    ← List.dropWhile_eq_nil_iff, List.dropWhile_idempotent, List.dropWhile_eq_nil_iff]

theorem isEmpty_trim (text : String) : (trim text).isEmpty = isBlankText text := by
  rw [Bool.eq_iff_iff, String.isEmpty_iff, ← String.toList_eq_nil_iff, toList_trim,
    trimChars_eq_nil_iff, isBlankText, List.all_eq_true]

/-! ## Blanks at the ends -/

/-- Something is in the text, and a blank at neither of its ends. -/
structure IsTrimmed (text : String) : Prop where
  ne_empty : text ≠ ""
  start : text.toList.head?.any isBlank = false
  finish : text.toList.getLast?.any isBlank = false

end MediaNaming.Text
