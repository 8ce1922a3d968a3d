/-!
# Blanks and controls

White space in the sense of the Unicode property `White_Space`, control characters, and trimming.
-/

namespace MediaNaming.Text

/-- The characters with the property `White_Space`. -/
def isBlank (c : Char) : Bool :=
  let n := c.toNat
  (0x09 ≤ n && n ≤ 0x0D) || n == 0x20 || n == 0x85 || n == 0xA0 || n == 0x1680 ||
    (0x2000 ≤ n && n ≤ 0x200A) || n == 0x2028 || n == 0x2029 || n == 0x202F || n == 0x205F ||
    n == 0x3000

/-- The characters of the general category `Cc`. -/
def isControl (c : Char) : Bool :=
  let n := c.toNat
  n ≤ 0x1F || (0x7F ≤ n && n ≤ 0x9F)

/-- The letters, the digits and what stands between them in the code are no blanks. -/
theorem isBlank_of_toNat {c : Char} (h : 48 ≤ c.toNat ∧ c.toNat ≤ 122) : isBlank c = false := by
  simp only [isBlank, Bool.or_eq_false_iff, Bool.and_eq_false_iff, beq_eq_false_iff_ne,
    decide_eq_false_iff_not]
  omega

theorem toNat_of_isDigit {c : Char} (h : c.isDigit = true) : 48 ≤ c.toNat ∧ c.toNat ≤ 57 := by
  simpa [Char.isDigit, UInt32.le_iff_toNat_le] using h

theorem isBlank_of_isDigit {c : Char} (h : c.isDigit = true) : isBlank c = false := by
  obtain ⟨hleast, hmost⟩ := toNat_of_isDigit h
  exact isBlank_of_toNat ⟨hleast, Nat.le_trans hmost (by decide)⟩

/-! ## Trimming -/

/-- Drops the longest tail of characters that satisfy `p`. -/
def dropTailWhile (p : Char → Bool) (cs : List Char) : List Char :=
  (cs.reverse.dropWhile p).reverse

/-- Drops blanks from both ends. -/
def trimChars (cs : List Char) : List Char :=
  dropTailWhile isBlank (cs.dropWhile isBlank)

/-- The text without the blanks at its ends. -/
def trim (text : String) : String :=
  String.ofList (trimChars text.toList)

/-- Whether the text holds nothing but blanks. -/
def isBlankText (text : String) : Bool :=
  text.toList.all isBlank

/-! ## What is left after trimming -/

theorem dropTailWhile_append_of_not (p : Char → Bool) (cs : List Char) {c : Char}
    (h : p c = false) : dropTailWhile p (cs ++ [c]) = cs ++ [c] := by
  simp [dropTailWhile, h]

theorem dropTailWhile_append_of (p : Char → Bool) (cs : List Char) {c : Char}
    (h : p c = true) : dropTailWhile p (cs ++ [c]) = dropTailWhile p cs := by
  simp [dropTailWhile, h]

@[simp] theorem dropTailWhile_nil (p : Char → Bool) : dropTailWhile p [] = [] := rfl

@[simp] theorem toList_trim (text : String) : (trim text).toList = trimChars text.toList :=
  String.toList_ofList

end MediaNaming.Text
