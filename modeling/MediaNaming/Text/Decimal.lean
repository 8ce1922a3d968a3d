/-!
# Decimal numbers

Integers in decimal, padded with zeros, and read back.
-/

namespace MediaNaming.Text

/-! ## Writing -/

def natChars (n : Nat) : List Char :=
  Nat.toDigits 10 n

/-- The sign of a negative number, nothing for the others. -/
def signChars (n : Int) : List Char :=
  if n < 0 then ['-'] else []

def intChars (n : Int) : List Char :=
  signChars n ++ natChars n.natAbs

/-- As many zeros as `cs` lacks characters to be `width` of them. -/
def missingZeros (width : Nat) (cs : List Char) : List Char :=
  List.replicate (width - cs.length) '0'

/-- The characters behind as many zeros as they lack to be `width` of them. -/
def zeroFill (width : Nat) (cs : List Char) : List Char :=
  missingZeros width cs ++ cs

/-- The integer with zeros between its sign and its digits, so that both fill `width`. -/
def paddedInt (width : Nat) (n : Int) : List Char :=
  signChars n ++ missingZeros width (intChars n) ++ natChars n.natAbs

def nat (n : Nat) : String :=
  String.ofList (natChars n)

def int (n : Int) : String :=
  String.ofList (intChars n)

/-! ## Reading -/

/-- The number that the digits denote; there must be one at least and nothing else. -/
def readNat? (cs : List Char) : Option Nat :=
  if cs.isEmpty || !cs.all Char.isDigit then
    none
  else
    some (Nat.ofDigitChars 10 cs 0)

/-- A number behind an optional minus sign. -/
def readInt? : List Char → Option Int
  | '-' :: cs => (readNat? cs).map fun n => -(n : Int)
  | cs => (readNat? cs).map fun n => (n : Int)

/-- The size of the least 64-bit integer, and one more than the greatest. -/
def int64Bound : Nat := 0x8000000000000000

/-- The 64-bit integer of value `n`, if there is one. -/
def toInt64? (n : Int) : Option Int64 :=
  if -int64Bound ≤ n ∧ n < int64Bound then some (Int64.ofInt n) else none

/-- The unsigned 64-bit integer of value `n`, if there is one. -/
def toUInt64? (n : Int) : Option UInt64 :=
  if 0 ≤ n ∧ n < UInt64.size then some (UInt64.ofNat n.toNat) else none

/-! ## What is written reads back -/

theorem natChars_ne_nil (n : Nat) : natChars n ≠ [] := by
  simp [natChars]

theorem isDigit_of_mem_natChars {n : Nat} {c : Char} (h : c ∈ natChars n) : c.isDigit = true :=
  Nat.isDigit_of_mem_toDigits (by decide) (by decide) h

theorem readNat?_eq_some_iff {cs : List Char} {n : Nat} :
    readNat? cs = some n ↔
      cs ≠ [] ∧ (∀ c ∈ cs, c.isDigit = true) ∧ Nat.ofDigitChars 10 cs 0 = n := by
  simp only [readNat?, Bool.or_eq_true, List.isEmpty_iff, Bool.not_eq_eq_eq_not, Bool.not_true]
  split
  · next h =>
    rcases h with rfl | hall
    · simp
    · simp [← List.all_eq_true, hall]
  · next h =>
    obtain ⟨hne, hall⟩ := not_or.mp h
    simp [← List.all_eq_true, hne, eq_true_of_ne_false hall]

/-- Zeros before the digits change nothing. -/
theorem readNat?_zeros_natChars (k n : Nat) :
    readNat? (List.replicate k '0' ++ natChars n) = some n := by
  refine readNat?_eq_some_iff.mpr ⟨by simp [natChars_ne_nil], ?_, ?_⟩
  · intro c hc
    rcases List.mem_append.mp hc with hc | hc
    · rw [List.eq_of_mem_replicate hc]
      decide
    · exact isDigit_of_mem_natChars hc
  · rw [Nat.ofDigitChars_append, Nat.ofDigitChars_replicate_zero, Nat.mul_zero]
    exact Nat.ofDigitChars_toDigits (by decide) (by decide)

theorem readNat?_zeroFill (width n : Nat) : readNat? (zeroFill width (natChars n)) = some n :=
  readNat?_zeros_natChars _ n

theorem length_zeroFill (width : Nat) (cs : List Char) :
    (zeroFill width cs).length = max width cs.length := by
  rw [zeroFill, missingZeros, List.length_append, List.length_replicate]
  omega

/-- A number that is not negative is padded by zeros in front alone. -/
theorem paddedInt_natCast (width n : Nat) : paddedInt width n = zeroFill width (natChars n) := by
  have hsign : signChars (n : Int) = [] := if_neg (by omega)
  rw [paddedInt, intChars, hsign, List.nil_append, List.nil_append, Int.natAbs_natCast, zeroFill]

theorem readInt?_signChars_append {n : Int} {cs : List Char} (h : readNat? cs = some n.natAbs) :
    readInt? (signChars n ++ cs) = some n := by
  unfold signChars
  split
  · next hneg =>
    have hvalue : -(n.natAbs : Int) = n := by omega
    rw [List.singleton_append, readInt?, h]
    exact congrArg some hvalue
  · next hneg =>
    have hvalue : (n.natAbs : Int) = n := by omega
    have hdash : ∀ ds, cs ≠ '-' :: ds := by
      rintro ds rfl
      have hdigit := (readNat?_eq_some_iff.mp h).2.1 '-' List.mem_cons_self
      exact absurd hdigit (by decide)
    rw [List.nil_append, readInt?, h]
    · exact congrArg some hvalue
    · exact hdash

theorem readInt?_paddedInt (width : Nat) (n : Int) : readInt? (paddedInt width n) = some n := by
  rw [paddedInt, List.append_assoc]
  exact readInt?_signChars_append (readNat?_zeros_natChars _ _)

theorem readInt?_intChars (n : Int) : readInt? (intChars n) = some n :=
  readInt?_signChars_append (readNat?_zeros_natChars 0 _)

/-- A number is read from digits, one at least, with or without a minus sign before them. -/
theorem sign_digits_of_readInt? {cs : List Char} {n : Int} (h : readInt? cs = some n) :
    ∃ digits, digits ≠ [] ∧ (∀ c ∈ digits, c.isDigit = true) ∧
      (cs = '-' :: digits ∨ cs = digits) := by
  unfold readInt? at h
  split at h
  · next digits =>
    cases hread : readNat? digits with
    | none => simp [hread] at h
    | some m =>
      obtain ⟨hne, hall, -⟩ := readNat?_eq_some_iff.mp hread
      exact ⟨digits, hne, hall, .inl rfl⟩
  · cases hread : readNat? cs with
    | none => simp [hread] at h
    | some m =>
      obtain ⟨hne, hall, -⟩ := readNat?_eq_some_iff.mp hread
      exact ⟨cs, hne, hall, .inr rfl⟩

theorem toInt64?_toInt (n : Int64) : toInt64? n.toInt = some n := by
  rw [toInt64?, if_pos ⟨n.le_toInt, n.toInt_lt⟩, Int64.ofInt_toInt]

theorem toInt_of_toInt64? {n : Int} {value : Int64} (h : toInt64? n = some value) :
    value.toInt = n := by
  unfold toInt64? at h
  split at h
  · next hrange =>
    cases h
    exact Int64.toInt_ofInt_of_le hrange.1 hrange.2
  · cases h

example : paddedInt 3 (-5) = "-05".toList := by decide
example : paddedInt 2 123 = "123".toList := by decide

end MediaNaming.Text
