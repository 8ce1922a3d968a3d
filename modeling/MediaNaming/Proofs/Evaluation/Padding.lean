import MediaNaming.Proofs.Results
import MediaNaming.Script.Eval

/-!
# Laws of zero padding

Numbers get zeros behind their sign, other values in front of their text. Up to the greatest width
that is allowed nothing is lost by it: a padded number reads back, and where there is no sign both
ways come to the same.
-/

namespace MediaNaming

/-! ## Padded numbers -/

namespace Text

theorem length_paddedInt (width : Nat) (n : Int) :
    (paddedInt width n).length = max width (intChars n).length := by
  have hchars : (intChars n).length = (signChars n).length + (natChars n.natAbs).length :=
    List.length_append
  rw [paddedInt, missingZeros, List.length_append, List.length_append, List.length_replicate]
  omega

/-- A number without a sign is padded as its text is. -/
theorem paddedInt_of_nonneg {n : Int} (h : 0 ≤ n) (width : Nat) :
    paddedInt width n = zeroFill width (intChars n) := by
  have hsign : signChars n = [] := if_neg (Int.not_lt.mpr h)
  rw [paddedInt, hsign, zeroFill, List.nil_append, intChars, hsign, List.nil_append]

theorem readInt64?_paddedInt (width : Nat) (n : Int64) :
    (readInt? (paddedInt width n.toInt)).bind toInt64? = some n := by
  rw [readInt?_paddedInt, Option.bind_some, toInt64?_toInt]

theorem ofList_zeroFill (width : Nat) (words : String) :
    String.ofList (zeroFill width words.toList) =
      String.ofList (List.replicate (width - words.length) '0') ++ words := by
  rw [zeroFill, missingZeros, String.length_toList, String.ofList_append, String.ofList_toList]

end Text

/-! ## Padded values -/

/-- A value is padded as its text is, unless it is a negative number. -/
theorem Value.padded_eq_ok {value : Value} {words : String} (hwords : value.toText? = some words)
    (hsign : ∀ n, value = .number n → 0 ≤ n) (expr : Expr) (width : Nat) :
    value.padded expr width = .ok (String.ofList (Text.zeroFill width words.toList)) := by
  cases value with
  | number n =>
    have hn : 0 ≤ n.toInt := Int64.le_iff_toInt_le.mp (hsign n rfl)
    cases hwords
    rw [padded, Text.paddedInt_of_nonneg hn, Text.int, String.toList_ofList]
  | _ =>
    rw [padded, asText, hwords]
    · rfl
    · exact fun n => Value.noConfusion

/-! ## Padded expressions -/

namespace Expr

section Widths

variable {request : Request} {value width : Expr} {w : Int64}

theorem eval_pad_of_wide (hwidth : width.evalNumber request = .ok w) (h : maxWidth < w)
    (value : Expr) :
    (Expr.pad value width).eval request = .error (.widthTooLarge "pad" w) := by
  obtain ⟨v, hv, hw⟩ := bind_eq_ok_iff.mp hwidth
  unfold eval
  rw [hv, ok_bind, hw, ok_bind, checkWidth, if_pos h]
  rfl

theorem eval_episodes_of_wide (hwidth : width.evalNumber request = .ok w) (h : maxWidth < w) :
    (Expr.episodes width).eval request = .error (.widthTooLarge "episodes" w) := by
  obtain ⟨v, hv, hw⟩ := bind_eq_ok_iff.mp hwidth
  unfold eval
  rw [hv, ok_bind, hw, ok_bind, checkWidth, if_pos h]
  rfl

/-- Up to the greatest width the value is padded, if it can be. -/
theorem eval_pad {v : Value} (hvalue : value.eval request = .ok v)
    (hwidth : width.evalNumber request = .ok w) (h : w ≤ maxWidth) :
    (Expr.pad value width).eval request = .text <$> v.padded value (Text.countOf w) := by
  obtain ⟨n, hn, hw⟩ := bind_eq_ok_iff.mp hwidth
  unfold eval
  rw [hn, ok_bind, hw, ok_bind, checkWidth, if_neg (Int64.not_lt.mpr h), ok_bind, hvalue, ok_bind]
  cases v.padded value (Text.countOf w) <;> rfl

theorem eval_pad_number {n : Int64} (hvalue : value.eval request = .ok (.number n))
    (hwidth : width.evalNumber request = .ok w) (h : w ≤ maxWidth) :
    (Expr.pad value width).eval request =
      .ok (.text (String.ofList (Text.paddedInt (Text.countOf w) n.toInt))) :=
  eval_pad hvalue hwidth h

theorem eval_pad_text {v : Value} {words : String} (hvalue : value.eval request = .ok v)
    (hwords : v.toText? = some words) (hsign : ∀ n, v = .number n → 0 ≤ n)
    (hwidth : width.evalNumber request = .ok w) (h : w ≤ maxWidth) :
    (Expr.pad value width).eval request =
      .ok (.text
        (String.ofList (List.replicate (Text.countOf w - words.length) '0') ++ words)) := by
  rw [eval_pad hvalue hwidth h, Value.padded_eq_ok hwords hsign, Text.ofList_zeroFill]
  rfl

/-- Numbers stay apart when they are padded. -/
theorem number_of_eval_pad {m n : Int64} {other : Expr}
    (hvalue : value.eval request = .ok (.number m)) (hother : other.eval request = .ok (.number n))
    (hwidth : width.evalNumber request = .ok w) (h : w ≤ maxWidth)
    (heq : (Expr.pad value width).eval request = (Expr.pad other width).eval request) : m = n := by
  rw [eval_pad_number hvalue hwidth h, eval_pad_number hother hwidth h] at heq
  have hchars := String.ofList_injective (Value.text.inj (Except.ok.inj heq))
  have hread := Text.readInt64?_paddedInt (Text.countOf w) m
  rw [hchars, Text.readInt64?_paddedInt] at hread
  exact (Option.some.inj hread).symm

end Widths

/--
Widths above 32 are refused. Up to there a number is padded to the greater of the width and of its
own length, with the sign counted, and reads back, so that numbers stay apart. Whatever has a text
and is no negative number is padded as this text is, by as many zeros as it lacks characters.
-/
theorem padding_is_lossless :
    (∀ (request : Request) (value width : Expr) (w : Int64),
      width.evalNumber request = .ok w → 32 < w →
        (Expr.pad value width).eval request = .error (.widthTooLarge "pad" w) ∧
        (Expr.episodes width).eval request = .error (.widthTooLarge "episodes" w)) ∧
    (∀ (request : Request) (value width : Expr) (n w : Int64),
      value.eval request = .ok (.number n) → width.evalNumber request = .ok w → w ≤ 32 →
        ∃ text, (Expr.pad value width).eval request = .ok (.text text) ∧
          (text.length : Int) = max w.toInt (Text.int n.toInt).length ∧
          (Text.readInt? text.toList).bind Text.toInt64? = some n) ∧
    (∀ (request : Request) (left right width : Expr) (m n w : Int64),
      left.eval request = .ok (.number m) → right.eval request = .ok (.number n) →
      width.evalNumber request = .ok w → w ≤ 32 → m ≠ n →
        (Expr.pad left width).eval request ≠ (Expr.pad right width).eval request) ∧
    ∀ (request : Request) (value width : Expr) (v : Value) (w : Int64),
      value.eval request = .ok v → width.evalNumber request = .ok w →
      v.category ≠ .flag → (∀ n, v = .number n → 0 ≤ n) →
        ∃ words, v.toText? = some words ∧
          (Expr.pad value width).eval request = (Expr.pad (.text words) width).eval request ∧
          (w ≤ 32 → (Expr.pad value width).eval request = .ok (.text
            (String.ofList (List.replicate (w.toInt.toNat - words.length) '0') ++ words))) := by
  refine ⟨?_, ?_, ?_, ?_⟩
  · intro request value width w hwidth hwide
    exact ⟨eval_pad_of_wide hwidth hwide value, eval_episodes_of_wide hwidth hwide⟩
  · intro request value width n w hvalue hwidth hnarrow
    refine ⟨_, eval_pad_number hvalue hwidth hnarrow, ?_, ?_⟩
    · have hcount : (Text.countOf w : Int) = max w.toInt 0 := Int.toNat_eq_max _
      rw [String.length_ofList, Text.length_paddedInt, Text.int, String.length_ofList]
      omega
    · rw [String.toList_ofList]
      exact Text.readInt64?_paddedInt _ n
  · intro request left right width m n w hleft hright hwidth hnarrow hne heq
    exact hne (number_of_eval_pad hleft hright hwidth hnarrow heq)
  · intro request value width v w hvalue hwidth hflag hsign
    obtain ⟨words, hwords⟩ := Option.ne_none_iff_exists'.mp (mt Value.toText?_eq_none_iff.mp hflag)
    refine ⟨words, hwords, ?_, eval_pad_text hvalue hwords hsign hwidth⟩
    -- The width is looked at before the value, so both are refused for the same reason.
    rcases Int64.lt_or_le maxWidth w with hwide | hnarrow
    · rw [eval_pad_of_wide hwidth hwide, eval_pad_of_wide hwidth hwide]
    · have hself : (Expr.text words).eval request = .ok (.text words) := rfl
      rw [eval_pad_text hvalue hwords hsign hwidth hnarrow,
        eval_pad_text hself rfl (fun n => Value.noConfusion) hwidth hnarrow]

/-- The least number, and numbers that differ in their sign; widths on both sides of the bound, one
of them negative; and a collection whose text is longer in bytes than in characters. -/
theorem padding_is_lossless_of_extremes :
    let request : Request := {
      file := { id := 1, path := "" }
      anime := [{
        id := 1, preferredTitle := "", titles := [⟨"進撃", .japanese, .main⟩], kind := .movie }]
      episodes := [] }
    let least : Expr := .number (-9223372036854775808)
    let titles : Expr := .label (.collection .animeTitles)
    ((Expr.number 33).evalNumber request = .ok 33 ∧
      (Expr.pad titles (.number 33)).eval request = .error (.widthTooLarge "pad" 33) ∧
      (Expr.episodes (.number 33)).eval request = .error (.widthTooLarge "episodes" 33)) ∧
    (least.eval request = .ok (.number (-9223372036854775808)) ∧
      ∃ text, (Expr.pad least (.number (-1))).eval request = .ok (.text text) ∧
        (text.length : Int) = 20 ∧
        (Text.readInt? text.toList).bind Text.toInt64? = some (-9223372036854775808)) ∧
    (Expr.pad (.number 5) (.number 3)).eval request ≠
      (Expr.pad (.number (-5)) (.number 3)).eval request ∧
    (titles.eval request = .ok (.collection (.titles [⟨"進撃", .japanese, .main⟩])) ∧
      ∃ words, words = "進撃" ∧
        (Expr.pad titles (.number 4)).eval request =
          (Expr.pad (.text words) (.number 4)).eval request ∧
        (Expr.pad titles (.number 4)).eval request = .ok (.text "00進撃")) := by
  intro request least titles
  obtain ⟨hwide, hnumber, hapart, hvalue⟩ := padding_is_lossless
  have hwidth (w : Int64) : (Expr.number w).evalNumber request = .ok w := rfl
  have hleast : least.eval request = .ok (.number (-9223372036854775808)) := rfl
  have htitles : titles.eval request = .ok (.collection (.titles [⟨"進撃", .japanese, .main⟩])) := rfl
  have hapart := hapart request (.number 5) (.number (-5)) (.number 3) 5 (-5) 3 rfl rfl (hwidth 3)
    (by decide) (by decide)
  obtain ⟨text, hpad, hlength, hread⟩ := hnumber request least (.number (-1)) _ (-1) hleast
    (hwidth (-1)) (by decide)
  have htwenty : max (-1 : Int64).toInt
      (Text.int (-9223372036854775808 : Int64).toInt).length = 20 := by decide +kernel
  obtain ⟨words, hwords, heq, hpadded⟩ := hvalue request titles (.number 4) _ 4 htitles (hwidth 4)
    (by decide) (fun n => Value.noConfusion)
  obtain rfl : words = "進撃" := (Option.some.inj hwords).symm.trans (by decide +kernel)
  have hzeros : String.ofList (List.replicate ((4 : Int64).toInt.toNat - "進撃".length) '0') ++ "進撃" =
      "00進撃" := by decide +kernel
  exact ⟨⟨hwidth 33, hwide request titles (.number 33) 33 (hwidth 33) (by decide)⟩,
    ⟨hleast, text, hpad, hlength.trans htwenty, hread⟩, hapart,
    htitles, "進撃", rfl, heq, (hpadded (by decide)).trans (hzeros ▸ rfl)⟩

end Expr

end MediaNaming
