import MediaNaming.Json.Printer
import MediaNaming.Json.Reader
import MediaNaming.Proofs.Text.Splitting

/-!
# Printed texts and numbers are read back

Every text is read back from its printed form, and so is every integer of 64 bits in front of what
does not go on with the number.
-/

namespace MediaNaming.Json

/-- The reader takes the value from the front of the characters and leaves the rest. -/
def Gives {α : Type} (read : (cs : List Char) → Option (Taken α cs)) (cs : List Char) (value : α)
    (rest : List Char) : Prop :=
  ∃ hlt, read cs = some ⟨value, rest, hlt⟩

/-! ## Texts -/

section Texts

variable {c e : Char} {cs rest : List Char} {units : List Nat}

theorem hex4?_control {n : Nat} (h : n < 0x20) :
    hex4? '0' '0' (hexChar (n / 16)) (hexChar (n % 16)) = some n := by
  have hall : ∀ n < 0x20, hex4? '0' '0' (hexChar (n / 16)) (hexChar (n % 16)) = some n := by decide
  exact hall n h

theorem textUnits_escaped (hescaped : escaped? e = some c)
    (h : textUnits cs = some (units, rest)) :
    textUnits ('\\' :: e :: cs) = some (c.toNat :: units, rest) := by
  have hnumber : e ≠ 'u' := by
    rintro rfl
    cases hescaped
  rw [textUnits, hescaped, h]
  · rfl
  · exact fun _ _ _ _ _ heq _ => hnumber heq

theorem textUnits_control {n : Nat} (hn : n < 0x20) (h : textUnits cs = some (units, rest)) :
    textUnits ('\\' :: 'u' :: '0' :: '0' :: hexChar (n / 16) :: hexChar (n % 16) :: cs) =
      some (n :: units, rest) := by
  rw [textUnits, hex4?_control hn, h]
  rfl

theorem textUnits_plain (hquote : c ≠ '"') (hbackslash : c ≠ '\\') (hc : ¬ c.toNat < 0x20)
    (h : textUnits cs = some (units, rest)) :
    textUnits (c :: cs) = some (c.toNat :: units, rest) := by
  rw [textUnits, if_neg hc, h]
  · rfl
  · exact hquote
  · exact fun _ _ _ _ _ heq _ => hbackslash heq
  · exact fun _ _ heq _ => hbackslash heq

/-- Whatever is escaped is read back, and all that must be is escaped. -/
theorem textUnits_textChar (c : Char) (h : textUnits cs = some (units, rest)) :
    textUnits (textChar c ++ cs) = some (c.toNat :: units, rest) := by
  unfold textChar
  -- Seven characters have an escape by letter.
  iterate 7
    split
    · next hc =>
      subst hc
      exact textUnits_escaped rfl h
  split
  · next hc => exact textUnits_control hc h
  · next hquote hbackslash _ _ _ _ _ hc => exact textUnits_plain hquote hbackslash hc h

theorem textUnits_flatMap (cs rest : List Char) :
    textUnits (cs.flatMap textChar ++ '"' :: rest) = some (cs.map Char.toNat, rest) := by
  induction cs with
  | nil => rw [List.flatMap_nil, List.nil_append, textUnits, List.map_nil]
  | cons c cs ih =>
    rw [List.flatMap_cons, List.append_assoc]
    exact textUnits_textChar c ih

/-- No character is half of a pair. -/
theorem joinUnits_map_toNat (cs : List Char) : joinUnits (cs.map Char.toNat) = some cs := by
  have hwhole (c : Char) : ¬ (0xD800 ≤ c.toNat ∧ c.toNat ≤ 0xDFFF) := by
    have hvalid : c.toNat < 0xD800 ∨ 0xDFFF < c.toNat ∧ c.toNat < 0x110000 := c.valid
    omega
  induction cs with
  | nil => rfl
  | cons c cs ih =>
    have hc := hwhole c
    cases cs with
    | nil => rw [List.map_singleton, joinUnits, if_neg hc, Char.ofNat_toNat]
    | cons d ds =>
      rw [List.map_cons] at ih
      rw [List.map_cons, List.map_cons, joinUnits, if_neg (by omega), if_neg (by omega), ih,
        Char.ofNat_toNat]
      rfl

theorem gives_units (h : textUnits cs = some (units, rest)) :
    Gives readText cs ((joinUnits units).map String.ofList) rest := by
  refine ⟨length_of_textUnits h, ?_⟩
  unfold readText
  split
  · next heq =>
    cases h.symm.trans heq
    rfl
  · next heq => cases h.symm.trans heq

/-- A text is read from behind its opening quote. -/
theorem gives_printedText (value : String) (rest : List Char) :
    Gives readText (value.toList.flatMap textChar ++ '"' :: rest) (some value) rest := by
  have hread := gives_units (textUnits_flatMap value.toList rest)
  rwa [joinUnits_map_toNat, Option.map_some, String.ofList_toList] at hread

end Texts

/-! ## Numbers -/

/-- The number is a 64-bit integer, with or without a sign. -/
def Fits (n : Int) : Prop :=
  -Text.int64Bound ≤ n ∧ n < UInt64.size

/-- No number that stands in front goes on here. -/
def EndsNumber (rest : List Char) : Prop :=
  ∀ d ∈ rest.head?, d.isDigit = false ∧ d ≠ '.' ∧ d ≠ 'e' ∧ d ≠ 'E'

section Numbers

variable {n : Nat} {rest : List Char}

theorem head?_natChars_ne (h : 0 < n) : (Text.natChars n).head? ≠ some '0' := by
  induction n using Nat.strongRecOn with
  | ind n ih =>
    unfold Text.natChars at ih ⊢
    by_cases hn : n < 10
    · rw [Nat.toDigits_of_lt_base hn, List.head?_singleton]
      have hall : ∀ n < 10, 0 < n → some n.digitChar ≠ some '0' := by decide
      exact hall n hn h
    · have hle : 10 ≤ n := by omega
      rw [Nat.toDigits_of_base_le (by decide) hle, List.head?_append]
      have hhead := ih (n / 10) (by omega) (by omega)
      cases hdigits : (Nat.toDigits 10 (n / 10)).head? with
      | none => exact absurd (List.head?_eq_none_iff.mp hdigits) Nat.toDigits_ne_nil
      | some d =>
        rw [hdigits] at hhead
        exact hhead

theorem no_leading_zero (n : Nat) :
    ¬ ((Text.natChars n).length ≠ 1 ∧ (Text.natChars n).head? = some '0') := by
  rintro ⟨hlength, hhead⟩
  cases Nat.eq_zero_or_pos n with
  | inl hzero =>
    subst hzero
    exact hlength rfl
  | inr hpos => exact head?_natChars_ne hpos hhead

theorem digits?_natChars (n : Nat) (hrest : EndsNumber rest) :
    digits? (Text.natChars n ++ rest) = some (Text.natChars n, rest) := by
  have hall : ∀ c ∈ Text.natChars n, c.isDigit = true := fun _ hc => Text.isDigit_of_mem_natChars hc
  have hstop : ∀ d ∈ rest.head?, d.isDigit = false := fun d hd => (hrest d hd).1
  unfold digits?
  dsimp only
  rw [Text.takeWhile_append_of_all hall hstop, Text.dropWhile_append_of_all hall hstop,
    if_neg (by simp [Text.natChars_ne_nil])]

theorem fraction?_of_endsNumber (hrest : EndsNumber rest) : fraction? rest = some ([], rest) := by
  unfold fraction?
  split
  · exact absurd rfl (hrest _ rfl).2.1
  · rfl

theorem exponent?_of_endsNumber (hrest : EndsNumber rest) : exponent? rest = some ([], rest) := by
  unfold exponent?
  split
  · exact absurd rfl (hrest _ rfl).2.2.1
  · exact absurd rfl (hrest _ rfl).2.2.2
  · rfl

theorem unsigned?_natChars (negative : Bool) (n : Nat) (hrest : EndsNumber rest) :
    unsigned? negative (Text.natChars n ++ rest) =
      some (ofDigits negative (Text.natChars n), rest) := by
  unfold unsigned?
  simp only [digits?_natChars n hrest, Option.bind_eq_bind, Option.bind_some,
    if_neg (no_leading_zero n), fraction?_of_endsNumber hrest, exponent?_of_endsNumber hrest]
  rfl

theorem ofDigits_natChars {negative : Bool} {n : Int} (hn : Fits n)
    (hsign : negative = decide (n < 0)) :
    ofDigits negative (Text.natChars n.natAbs) = .integer n := by
  obtain ⟨hleast, hmost⟩ := hn
  unfold ofDigits
  rw [Text.natChars, Nat.ofDigitChars_ten_toDigits]
  subst hsign
  by_cases hnegative : n < 0
  · have hsize : ¬ (n.natAbs = 0 ∨ Text.int64Bound < n.natAbs) := by omega
    have hvalue : -(n.natAbs : Int) = n := by omega
    simp only [hnegative, decide_true, if_true, if_neg hsize, hvalue]
  · have hsize : ¬ UInt64.size ≤ n.natAbs := by omega
    have hvalue : (n.natAbs : Int) = n := by omega
    simp only [hnegative, decide_false, Bool.false_eq_true, if_false, if_neg hsize, hvalue]

theorem number?_intChars {n : Int} (hn : Fits n) (hrest : EndsNumber rest) :
    number? (Text.intChars n ++ rest) = some (.integer n, rest) := by
  unfold Text.intChars Text.signChars
  split
  · next hnegative =>
    rw [List.singleton_append, List.cons_append, number?, unsigned?_natChars true _ hrest,
      ofDigits_natChars hn (by simpa using hnegative)]
  · next hnegative =>
    rw [List.nil_append, number?, unsigned?_natChars false _ hrest,
      ofDigits_natChars hn (by simpa using hnegative)]
    intro cs heq
    have hdash : '-' ∈ Text.natChars n.natAbs := by
      cases hdigits : Text.natChars n.natAbs with
      | nil => exact absurd hdigits (Text.natChars_ne_nil _)
      | cons d ds =>
        rw [hdigits] at heq
        cases heq
        exact List.mem_cons_self
    exact absurd (Text.isDigit_of_mem_natChars hdash) (by decide)

theorem gives_integer {n : Int} (hn : Fits n) (hrest : EndsNumber rest) :
    Gives readNumber (Text.intChars n ++ rest) (.integer n) rest := by
  have hlt : rest.length < (Text.intChars n ++ rest).length := by
    have hne := List.length_pos_iff.mpr (Text.natChars_ne_nil n.natAbs)
    rw [Text.intChars, List.length_append, List.length_append]
    omega
  refine ⟨hlt, ?_⟩
  unfold readNumber
  rw [number?_intChars hn hrest]
  exact dif_pos hlt

end Numbers

end MediaNaming.Json
