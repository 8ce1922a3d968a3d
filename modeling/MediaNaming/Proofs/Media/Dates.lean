import Mathlib.Data.Nat.Digits.Defs
import MediaNaming.Media.Date
import MediaNaming.Proofs.Text.Splitting

/-!
# Dates are read back

Every date is read back from its written form. A year of four digits is written without a sign, any
other one with a sign, so that the digits of the year end where they are read to end.
-/

namespace MediaNaming.Date

/-! ## Parts of a date -/

section Parts

variable {width n : Nat} {c : Char} {digits rest : List Char}

theorem skipBlanks_of_not (h : Text.isBlank c = false) (cs : List Char) :
    skipBlanks (c :: cs) = c :: cs :=
  List.dropWhile_cons_of_neg (by simp [h])

theorem hyphen?_hyphen (cs : List Char) : hyphen? ('-' :: cs) = some cs := by
  rw [hyphen?, skipBlanks_of_not (by decide)]
  rfl

/-- As many digits are read as there are, if that is not too many. -/
theorem number?_append (hread : Text.readNat? digits = some n) (hwidth : digits.length ≤ width)
    (hrest : ∀ d ∈ rest.head?, d.isDigit = false) :
    number? width (digits ++ rest) = some (n, rest) := by
  obtain ⟨hne, hall, hvalue⟩ := Text.readNat?_eq_some_iff.mp hread
  have hdigits : ((digits ++ rest).take width).takeWhile Char.isDigit = digits := by
    rw [List.take_append, List.take_of_length_le hwidth]
    refine Text.takeWhile_append_of_all hall fun d hd => hrest d ?_
    rw [List.head?_take] at hd
    split at hd
    · cases hd
    · exact hd
  unfold number?
  dsimp only
  rw [hdigits, if_neg (by simpa using hne), hvalue, List.drop_left]

theorem exists_digit (hread : Text.readNat? digits = some n) :
    ∃ d ds, digits = d :: ds ∧ d.isDigit = true := by
  obtain ⟨hne, hall, -⟩ := Text.readNat?_eq_some_iff.mp hread
  cases digits with
  | nil => exact absurd rfl hne
  | cons d ds => exact ⟨d, ds, rfl, hall d List.mem_cons_self⟩

theorem number?_skipBlanks (hread : Text.readNat? digits = some n)
    (hwidth : digits.length ≤ width) (hrest : ∀ d ∈ rest.head?, d.isDigit = false) :
    number? width (skipBlanks (digits ++ rest)) = some (n, rest) := by
  obtain ⟨d, ds, rfl, hd⟩ := exists_digit hread
  rw [List.cons_append, skipBlanks_of_not (Text.isBlank_of_isDigit hd), ← List.cons_append]
  exact number?_append hread hwidth hrest

/-- Months and days are written with two digits. -/
theorem number?_paddedInt (hn : n < 100) (hrest : ∀ d ∈ rest.head?, d.isDigit = false) :
    number? 2 (skipBlanks (Text.paddedInt 2 n ++ rest)) = some (n, rest) := by
  rw [Text.paddedInt_natCast]
  refine number?_skipBlanks (Text.readNat?_zeroFill 2 n) ?_ hrest
  rw [Text.length_zeroFill]
  exact Nat.max_le.mpr ⟨Nat.le_refl 2, Nat.toDigits_length 10 n 2 (by decide) (by omega)⟩

/-! ## Years -/

/-- Without a sign, up to four digits are a year. -/
theorem year?_digits (hread : Text.readNat? digits = some n) (hwidth : digits.length ≤ 4)
    (hrest : ∀ d ∈ rest.head?, d.isDigit = false) :
    year? (skipBlanks (digits ++ rest)) = some ((n : Int), rest) := by
  have hnumber := number?_skipBlanks hread hwidth hrest
  obtain ⟨d, ds, rfl, hd⟩ := exists_digit hread
  rw [List.cons_append, skipBlanks_of_not (Text.isBlank_of_isDigit hd)] at hnumber ⊢
  rw [year?, hnumber]
  · rfl
  · rintro cs heq
    cases heq
    exact absurd hd (by decide)
  · rintro cs heq
    cases heq
    exact absurd hd (by decide)

/-- Behind a sign, any number of digits are a year. -/
theorem year?_signed (hread : Text.readNat? digits = some n)
    (hrest : ∀ d ∈ rest.head?, d.isDigit = false) :
    year? (skipBlanks ('-' :: (digits ++ rest))) = some (-(n : Int), rest) ∧
      year? (skipBlanks ('+' :: (digits ++ rest))) = some ((n : Int), rest) := by
  have hnumber : number? (digits ++ rest).length (digits ++ rest) = some (n, rest) :=
    number?_append hread (by simp) hrest
  rw [skipBlanks_of_not (by decide), skipBlanks_of_not (by decide), year?, year?, hnumber]
  exact ⟨rfl, rfl⟩

theorem year?_yearChars (year : Int) (hrest : ∀ d ∈ rest.head?, d.isDigit = false) :
    year? (skipBlanks (yearChars year ++ rest)) = some (year, rest) := by
  have hread := Text.readNat?_zeroFill 4 year.natAbs
  obtain ⟨hminus, hplus⟩ := year?_signed hread hrest
  unfold yearChars
  split
  · next hrange =>
    obtain ⟨n, rfl⟩ := Int.eq_ofNat_of_zero_le hrange.1
    rw [Text.paddedInt_natCast]
    refine year?_digits hread ?_ hrest
    have hfour : (Text.natChars n).length ≤ 4 :=
      Nat.toDigits_length 10 n 4 (by decide) (by omega)
    rw [Text.length_zeroFill]
    exact Nat.max_le.mpr ⟨Nat.le_refl 4, hfour⟩
  · split
    · have hvalue : -(year.natAbs : Int) = year := by omega
      rwa [hvalue] at hminus
    · have hvalue : (year.natAbs : Int) = year := by omega
      rwa [hvalue] at hplus

end Parts

/-! ## Dates -/

theorem daysInMonth_le (year : Int) (month : Nat) : daysInMonth year month ≤ 31 := by
  unfold daysInMonth
  repeat' split
  all_goals decide

theorem ofChars?_toChars (date : Date) : ofChars? date.toChars = some date := by
  obtain ⟨year, month, day, hvalid⟩ := date
  have hmonth : month < 100 := by
    obtain ⟨-, -, -, hle, -, -⟩ := hvalid
    omega
  have hday : day < 100 := by
    obtain ⟨-, -, -, -, -, hle⟩ := hvalid
    have hmost := daysInMonth_le year month
    omega
  have hhyphen (cs : List Char) : ∀ d ∈ ('-' :: cs).head?, d.isDigit = false := by
    rintro d ⟨⟩
    decide
  have hlast : number? 2 (skipBlanks (Text.paddedInt 2 day)) = some (day, []) := by
    have hread := @number?_paddedInt day [] hday (by simp)
    rwa [List.append_nil] at hread
  have hparts : ofParts? year month day = some ⟨year, month, day, hvalid⟩ := dif_pos hvalid
  rw [toChars, List.append_assoc, List.cons_append, ofChars?, year?_yearChars year (hhyphen _)]
  simp only [Option.bind_eq_bind, Option.bind_some, hyphen?_hyphen,
    number?_paddedInt hmonth (hhyphen _), hlast]
  exact hparts

theorem ofString?_toString (date : Date) : ofString? date.toString = some date := by
  rw [ofString?, toString, String.toList_ofList, ofChars?_toChars]

end MediaNaming.Date
