import MediaNaming.Proofs.Results
import MediaNaming.Script.Eval

/-!
# Laws of slices

A slice is a stretch of a text, whatever 64-bit integers it is asked for by: it starts and ends as
near as there are characters to where it is meant to. Slices of slices are slices.
-/

namespace MediaNaming

namespace Text

/-! ## Counts -/

section Counts

variable {a b : Int64}

theorem natCast_countOf (n : Int64) : (countOf n : Int) = max 0 n.toInt := by
  rw [countOf, Int.toNat_eq_max, Int.max_comm]

/-- Counts add up as long as the sum is a 64-bit integer. -/
theorem countOf_add (ha : 0 ≤ a) (hb : 0 ≤ b) (h : a.toInt + b.toInt < int64Bound) :
    countOf (a + b) = countOf a + countOf b := by
  have ha : 0 ≤ a.toInt := Int64.le_iff_toInt_le.mp ha
  have hb : 0 ≤ b.toInt := Int64.le_iff_toInt_le.mp hb
  rw [int64Bound] at h
  -- Sums wrap around, but not within the range.
  have hsum : (a + b).toInt = a.toInt + b.toInt := by
    rw [Int64.toInt_add]
    exact Int.bmod_eq_of_le (by omega) (by omega)
  rw [countOf, hsum, Int.toNat_add ha hb]
  rfl

theorem countOf_le_countOf (h : a ≤ b) : countOf a ≤ countOf b :=
  Int.toNat_le_toNat (Int64.le_iff_toInt_le.mp h)

theorem countOf_min (a b : Int64) : countOf (min a b) = min (countOf a) (countOf b) := by
  change countOf (if a ≤ b then a else b) = _
  split
  · next hle => exact (Nat.min_eq_left (countOf_le_countOf hle)).symm
  · next hnot =>
    have hle : b ≤ a := Int64.le_of_lt (Int64.not_le.mp hnot)
    exact (Nat.min_eq_right (countOf_le_countOf hle)).symm

end Counts

/-! ## Stretches of a text -/

/-- A slice stands between the characters in front of its start and those behind its end. -/
theorem exists_sliceChars (cs : List Char) (start : Int64) (len : Option Int64) :
    ∃ front back, cs = front ++ sliceChars cs start len ++ back ∧
      front.length = min cs.length (countOf start) ∧
      (sliceChars cs start len).length =
        len.elim (cs.length - front.length)
          fun len => min (countOf len) (cs.length - front.length) := by
  have hfront : (cs.take (countOf start)).length = min cs.length (countOf start) := by
    rw [List.length_take, Nat.min_comm]
  have hrest : (cs.drop (countOf start)).length =
      cs.length - (cs.take (countOf start)).length := by
    rw [List.length_drop, hfront]
    omega
  cases len with
  | none =>
    refine ⟨cs.take (countOf start), [], ?_, hfront, hrest⟩
    rw [List.append_nil]
    exact (List.take_append_drop _ _).symm
  | some len =>
    refine ⟨cs.take (countOf start), (cs.drop (countOf start)).drop (countOf len), ?_, hfront, ?_⟩
    · rw [List.append_assoc, sliceChars, List.take_append_drop, List.take_append_drop]
    · rw [sliceChars, List.length_take, hrest]
      rfl

theorem exists_slice (text : String) (start : Int64) (len : Option Int64) :
    ∃ front back, text = front ++ slice text start len ++ back ∧
      front.length = min text.length (countOf start) ∧
      (slice text start len).length =
        len.elim (text.length - front.length)
          fun len => min (countOf len) (text.length - front.length) := by
  obtain ⟨front, back, htext, hfront, hlength⟩ := exists_sliceChars text.toList start len
  refine ⟨String.ofList front, String.ofList back, ?_, ?_, ?_⟩
  · rw [← String.toList_inj, String.toList_append, String.toList_append, toList_slice,
      String.toList_ofList, String.toList_ofList]
    exact htext
  · rw [String.length_ofList, hfront, String.length_toList]
  · rw [slice, String.length_ofList, String.length_ofList, hlength, String.length_toList]

/-! ## Slices of slices -/

section Composition

variable (text : String)

/-- A text is its first characters and what remains behind them. -/
theorem slice_append_slice (k : Int64) : slice text 0 (some k) ++ slice text k none = text := by
  rw [← String.toList_inj, String.toList_append, toList_slice, toList_slice]
  exact List.take_append_drop _ _

theorem slice_slice {a b : Int64} (ha : 0 ≤ a) (hb : 0 ≤ b)
    (h : a.toInt + b.toInt < int64Bound) :
    slice (slice text a none) b none = slice text (a + b) none := by
  rw [← String.toList_inj, toList_slice, toList_slice, toList_slice]
  simp only [sliceChars]
  rw [List.drop_drop, countOf_add ha hb h]

theorem truncate_truncate (a b : Int64) :
    truncate (truncate text a) b = truncate text (min a b) := by
  rw [← String.toList_inj, truncate, truncate, truncate, toList_slice, toList_slice, toList_slice]
  change (text.toList.take (countOf a)).take (countOf b) = text.toList.take (countOf (min a b))
  rw [List.take_take, countOf_min, Nat.min_comm]

end Composition

end Text

/-! ## Expressions -/

namespace Expr

section Values

variable {request : Request} {text start len : Expr} {value : String} {a k : Int64}

theorem eval_rest (htext : text.evalText request = .ok value)
    (hstart : start.evalNumber request = .ok a) :
    (Expr.rest text start).eval request = .ok (.text (Text.slice value a none)) := by
  obtain ⟨v, hv, hvalue⟩ := bind_eq_ok_iff.mp htext
  obtain ⟨m, hm, ha⟩ := bind_eq_ok_iff.mp hstart
  unfold Expr.eval
  rw [hv, ok_bind, hvalue, ok_bind, hm, ok_bind, ha]
  rfl

theorem eval_substr (htext : text.evalText request = .ok value)
    (hstart : start.evalNumber request = .ok a) (hlen : len.evalNumber request = .ok k) :
    (Expr.substr text start len).eval request = .ok (.text (Text.slice value a (some k))) := by
  obtain ⟨v, hv, hvalue⟩ := bind_eq_ok_iff.mp htext
  obtain ⟨m, hm, ha⟩ := bind_eq_ok_iff.mp hstart
  obtain ⟨n, hn, hk⟩ := bind_eq_ok_iff.mp hlen
  unfold Expr.eval
  rw [hv, ok_bind, hvalue, ok_bind, hm, ok_bind, ha, ok_bind, hn, ok_bind, hk]
  rfl

theorem eval_trunc (htext : text.evalText request = .ok value)
    (hlen : len.evalNumber request = .ok k) :
    (Expr.trunc text len).eval request = .ok (.text (Text.truncate value k)) := by
  obtain ⟨v, hv, hvalue⟩ := bind_eq_ok_iff.mp htext
  obtain ⟨n, hn, hk⟩ := bind_eq_ok_iff.mp hlen
  unfold Expr.eval
  rw [hv, ok_bind, hvalue, ok_bind, hn, ok_bind, hk]
  rfl

end Values

end Expr

/--
A slice is the stretch of the text that starts at the place asked for, or at the nearest one that
there is, and is as long as asked for, or as what remains. First characters and remainder make up
the text, a remainder of a remainder is one, and of two lengths that a text is cut to the lesser
counts. Expressions cut the texts that they are given in this way.
-/
theorem Text.slices_saturate_and_compose :
    (∀ (text : String) (start : Int64) (len : Option Int64), ∃ front back : String,
      text = front ++ slice text start len ++ back ∧
      (front.length : Int) = min (text.length : Int) (max 0 start.toInt) ∧
      ((slice text start len).length : Int) =
        len.elim (text.length - front.length : Int)
          fun len => min (max 0 len.toInt) (text.length - front.length)) ∧
    (∀ (text : String) (k : Int64), slice text 0 (some k) ++ slice text k none = text) ∧
    (∀ (text : String) (a b : Int64), 0 ≤ a → 0 ≤ b → a.toInt + b.toInt < int64Bound →
      slice (slice text a none) b none = slice text (a + b) none) ∧
    (∀ (text : String) (a b : Int64),
      truncate (truncate text a) b = truncate text (min a b)) ∧
    ∀ (request : Request) (text start len : Expr) (value : String) (a k : Int64),
      text.evalText request = .ok value → start.evalNumber request = .ok a →
      len.evalNumber request = .ok k →
        (Expr.rest text start).eval request = .ok (.text (slice value a none)) ∧
        (Expr.substr text start len).eval request = .ok (.text (slice value a (some k))) ∧
        (Expr.trunc text len).eval request = .ok (.text (truncate value k)) := by
  refine ⟨fun text start len => ?_, slice_append_slice, fun text _ _ => slice_slice text,
    truncate_truncate, fun request text start len value a k htext hstart hlen =>
      ⟨Expr.eval_rest htext hstart, Expr.eval_substr htext hstart hlen,
        Expr.eval_trunc htext hlen⟩⟩
  obtain ⟨front, back, htext, hfront, hlength⟩ := exists_slice text start len
  have hstart := natCast_countOf start
  refine ⟨front, back, htext, by omega, ?_⟩
  rw [hlength]
  cases len with
  | none =>
    change ((text.length - front.length : Nat) : Int) = text.length - front.length
    omega
  | some len =>
    have hlen := natCast_countOf len
    change ((min (countOf len) (text.length - front.length) : Nat) : Int) =
      min (max 0 len.toInt) (text.length - front.length)
    omega

/-- The least and the greatest of the 64-bit integers, and sums that are just in range. -/
theorem Text.slices_saturate_and_compose_of_extremes :
    let least : Int64 := -9223372036854775808
    let greatest : Int64 := 9223372036854775807
    let request : Request := { file := { id := 1, path := "" }, anime := [], episodes := [] }
    let title : Expr := .text "進撃の巨人"
    ((0 : Int64) ≤ greatest - 1 ∧ (0 : Int64) ≤ 1 ∧
      (greatest - 1).toInt + (1 : Int64).toInt < int64Bound ∧
      slice (slice "進撃の巨人" (greatest - 1) none) 1 none = slice "進撃の巨人" greatest none) ∧
    slice "進撃の巨人" 0 (some least) ++ slice "進撃の巨人" least none = "進撃の巨人" ∧
    truncate (truncate "進撃の巨人" greatest) 2 = "進撃" ∧
    (title.evalText request = .ok "進撃の巨人" ∧
      (Expr.number least).evalNumber request = .ok least ∧
      (Expr.number greatest).evalNumber request = .ok greatest ∧
      (Expr.substr title (.number least) (.number greatest)).eval request =
        .ok (.text "進撃の巨人")) := by
  intro least greatest request title
  obtain ⟨-, hsplit, hcompose, htruncate, hexprs⟩ := slices_saturate_and_compose
  have hless : (0 : Int64) ≤ greatest - 1 := by decide
  have hone : (0 : Int64) ≤ 1 := by decide
  have hrange : (greatest - 1).toInt + (1 : Int64).toInt < int64Bound := by decide
  have htitle : title.evalText request = .ok "進撃の巨人" := rfl
  have hleast : (Expr.number least).evalNumber request = .ok least := rfl
  have hgreatest : (Expr.number greatest).evalNumber request = .ok greatest := rfl
  have hsum : greatest - 1 + 1 = greatest := by decide
  have hwhole : slice "進撃の巨人" least (some greatest) = "進撃の巨人" := by decide +kernel
  have hcut := hcompose "進撃の巨人" (greatest - 1) 1 hless hone hrange
  have hsubstr := (hexprs request title (.number least) (.number greatest) _ _ _ htitle hleast
    hgreatest).2.1
  rw [hsum] at hcut
  rw [hwhole] at hsubstr
  exact ⟨⟨hless, hone, hrange, hcut⟩, hsplit _ least,
    (htruncate "進撃の巨人" greatest 2).trans (by decide +kernel), htitle, hleast, hgreatest, hsubstr⟩

end MediaNaming
