import Mathlib.Data.List.TakeWhile
import MediaNaming.Text.Case
import MediaNaming.Text.Search

/-!
# Lower case of parts of texts

The lower case of a part of a text is that of the part alone, but for capital sigmas: they look for
letters on both sides, and a sigma that sees an end of the part may see a letter beyond it in the
text. Parts without such a sigma have the same lower case wherever they stand; for all others there
is a text whose lower case they are missing from.
-/

namespace MediaNaming.Text

/-! ## Letters on one side -/

theorem startsCased_append_of_ignorable {cs : List Char} (h : cs.all isCaseIgnorable = true)
    (more : List Char) : startsCased (cs ++ more) = startsCased more := by
  unfold startsCased
  rw [List.dropWhile_append_of_pos (List.all_eq_true.mp h)]

theorem startsCased_append_of_not_ignorable {cs : List Char}
    (h : cs.all isCaseIgnorable = false) (more : List Char) :
    startsCased (cs ++ more) = startsCased cs := by
  unfold startsCased
  rw [List.dropWhile_append]
  cases hrest : cs.dropWhile isCaseIgnorable with
  | nil =>
    rw [List.dropWhile_eq_nil_iff, ← List.all_eq_true, h] at hrest
    cases hrest
  | cons c rest => rfl

/-- Ignorable characters alone are no letter. -/
theorem startsCased_of_ignorable {cs : List Char} (h : cs.all isCaseIgnorable = true) :
    startsCased cs = false := by
  have hnil := startsCased_append_of_ignorable h []
  rwa [List.append_nil] at hnil

/-- What follows on a letter does not hide it. -/
theorem startsCased_append {cs : List Char} (h : startsCased cs = true) (more : List Char) :
    startsCased (cs ++ more) = true := by
  cases hall : cs.all isCaseIgnorable with
  | true =>
    rw [startsCased_of_ignorable hall] at h
    cases h
  | false => rw [startsCased_append_of_not_ignorable hall, h]

/-! ## Sigmas that see an end -/

/--
Whether a letter at an end decides the form of a sigma: in front of it if there is none behind it,
or behind it if there is one in front of it. The characters before it come nearest first.
-/
def isExposed (before after : List Char) : Bool :=
  (before.all isCaseIgnorable && !startsCased after) ||
    (startsCased before && after.all isCaseIgnorable)

/-- A sigma that is not exposed has its form whatever is put in front and behind. -/
theorem isFinalSigma_append {before after : List Char} (h : isExposed before after = false)
    (front back : List Char) :
    isFinalSigma (before ++ front) (after ++ back) = isFinalSigma before after := by
  simp only [isExposed, Bool.or_eq_false_iff, Bool.and_eq_false_iff, Bool.not_eq_false'] at h
  obtain ⟨hfront, hback⟩ := h
  unfold isFinalSigma
  rcases hfront with hfront | hfront
  · rw [startsCased_append_of_not_ignorable hfront]
    rcases hback with hback | hback
    · rw [hback, Bool.false_and, Bool.false_and]
    · rw [startsCased_append_of_not_ignorable hback]
  · rw [startsCased_append hfront, hfront, Bool.not_true, Bool.and_false, Bool.and_false]

/-- A sigma of the characters is exposed. -/
def ExposesSigma (cs : List Char) : Prop :=
  ∃ before after, cs = before ++ 'Σ' :: after ∧ isExposed before.reverse after = true

/-- Whether a sigma of `cs` is exposed where the characters in `before` stand in front. -/
def exposesSigmaAfter (before : List Char) : List Char → Bool
  | [] => false
  | c :: cs => (c == 'Σ' && isExposed before cs) || exposesSigmaAfter (c :: before) cs

theorem exposesSigmaAfter_iff {before cs : List Char} :
    exposesSigmaAfter before cs = true ↔
      ∃ left right, cs = left ++ 'Σ' :: right ∧
        isExposed (left.reverse ++ before) right = true := by
  induction cs generalizing before with
  | nil => simp [exposesSigmaAfter]
  | cons c cs ih =>
    rw [exposesSigmaAfter, Bool.or_eq_true, Bool.and_eq_true, beq_iff_eq, ih]
    constructor
    · rintro (⟨rfl, h⟩ | ⟨left, right, rfl, h⟩)
      · exact ⟨[], cs, rfl, h⟩
      · exact ⟨c :: left, right, rfl, by simpa using h⟩
    · rintro ⟨left, right, hcs, h⟩
      cases left with
      | nil =>
        obtain ⟨rfl, rfl⟩ := List.cons.inj hcs
        exact .inl ⟨rfl, h⟩
      | cons d left =>
        obtain ⟨rfl, rfl⟩ := List.cons.inj hcs
        exact .inr ⟨left, right, rfl, by simpa using h⟩

instance (cs : List Char) : Decidable (ExposesSigma cs) :=
  decidable_of_iff (exposesSigmaAfter [] cs = true) <| by
    rw [exposesSigmaAfter_iff]
    simp only [List.append_nil, ExposesSigma]

/-! ## Lower case between other characters -/

/-- The lower case of `c` between `before`, nearest first, and `after`. -/
def lowerImage (before after : List Char) (c : Char) : List Char :=
  if c = 'Σ' then
    if isFinalSigma before after then ['ς'] else ['σ']
  else
    lowerChar c

/-- The lower case of `cs` between `before`, nearest first, and `after`. -/
def lowerBetween (before after : List Char) : List Char → List Char
  | [] => []
  | c :: cs => lowerImage before (cs ++ after) c ++ lowerBetween (c :: before) after cs

theorem lowerAfter_cons (before : List Char) (c : Char) (cs : List Char) :
    lowerAfter before (c :: cs) = lowerImage before cs c ++ lowerAfter (c :: before) cs := rfl

theorem lowerAfter_append (before cs more : List Char) :
    lowerAfter before (cs ++ more) =
      lowerBetween before more cs ++ lowerAfter (cs.reverse ++ before) more := by
  induction cs generalizing before with
  | nil => rfl
  | cons c cs ih =>
    rw [List.cons_append, lowerAfter_cons, ih, lowerBetween, List.append_assoc,
      List.reverse_cons, List.append_assoc, List.singleton_append]

theorem lowerBetween_nil (before cs : List Char) :
    lowerBetween before [] cs = lowerAfter before cs := by
  have happend := lowerAfter_append before cs []
  rw [List.append_nil] at happend
  simpa [lowerAfter] using happend.symm

theorem lowerBetween_nil_nil (cs : List Char) : lowerBetween [] [] cs = lowerChars cs :=
  lowerBetween_nil [] cs

theorem lowerChars_append (before cs after : List Char) :
    lowerChars (before ++ (cs ++ after)) =
      lowerBetween [] (cs ++ after) before ++
        (lowerBetween before.reverse after cs ++
          lowerAfter (cs.reverse ++ before.reverse) after) := by
  rw [lowerChars, lowerAfter_append, lowerAfter_append, List.append_nil]

/-- Lower case depends on what stands around only by the forms of the sigmas. -/
theorem lowerBetween_congr {before after front back cs : List Char}
    (h : ∀ left right, cs = left ++ 'Σ' :: right →
      isFinalSigma (left.reverse ++ before) (right ++ after) =
        isFinalSigma (left.reverse ++ front) (right ++ back)) :
    lowerBetween before after cs = lowerBetween front back cs := by
  induction cs generalizing before front with
  | nil => rfl
  | cons c cs ih =>
    have himage : lowerImage before (cs ++ after) c = lowerImage front (cs ++ back) c := by
      unfold lowerImage
      split
      · next hc =>
        subst hc
        have hform := h [] cs rfl
        rw [List.reverse_nil, List.nil_append, List.nil_append] at hform
        rw [hform]
      · rfl
    rw [lowerBetween, lowerBetween, himage]
    refine congrArg _ (ih fun left right hcs => ?_)
    have hsplit := h (c :: left) right (by rw [hcs, List.cons_append])
    simpa using hsplit

/-! ## Counting sigmas -/

/-- One for a capital sigma that becomes final between `before`, nearest first, and `after`. -/
def finalSigma (before after : List Char) (c : Char) : Nat :=
  if c = 'Σ' ∧ isFinalSigma before after = true then 1 else 0

/-- How many capital sigmas of `cs` become final between `before`, nearest first, and `after`. -/
def finalSigmas (before after : List Char) : List Char → Nat
  | [] => 0
  | c :: cs => finalSigma before (cs ++ after) c + finalSigmas (c :: before) after cs

section Counting

variable {before after front back cs : List Char}

theorem count_lowerImage (before after front back : List Char) (c : Char) :
    (lowerImage before after c).count 'ς' + finalSigma front back c =
        (lowerImage front back c).count 'ς' + finalSigma before after c ∧
      (lowerImage before after c).count 'σ' + finalSigma before after c =
        (lowerImage front back c).count 'σ' + finalSigma front back c := by
  unfold lowerImage finalSigma
  by_cases hc : c = 'Σ'
  · subst hc
    cases isFinalSigma before after <;> cases isFinalSigma front back <;> decide
  · simp [hc]

/-- Each capital sigma that becomes final is one final sigma more and one of the others less. -/
theorem count_lowerBetween (before after front back cs : List Char) :
    (lowerBetween before after cs).count 'ς' + finalSigmas front back cs =
        (lowerBetween front back cs).count 'ς' + finalSigmas before after cs ∧
      (lowerBetween before after cs).count 'σ' + finalSigmas before after cs =
        (lowerBetween front back cs).count 'σ' + finalSigmas front back cs := by
  induction cs generalizing before front with
  | nil => exact ⟨rfl, rfl⟩
  | cons c cs ih =>
    have himage := count_lowerImage before (cs ++ after) front (cs ++ back) c
    have hrest := ih (c :: before) (c :: front)
    simp only [lowerBetween, finalSigmas, List.count_append]
    omega

/-- No sigma of `cs` loses its final form from one place to the other. -/
def KeepsFinal (before after front back cs : List Char) : Prop :=
  ∀ left right, cs = left ++ 'Σ' :: right →
    isFinalSigma (left.reverse ++ before) (right ++ after) = true →
      isFinalSigma (left.reverse ++ front) (right ++ back) = true

/-- More in front of a text takes no letter away from the sigmas. -/
theorem keepsFinal_front (before after front cs : List Char) :
    KeepsFinal before after (before ++ front) after cs := by
  intro left right _ hfinal
  unfold isFinalSigma at hfinal ⊢
  rw [Bool.and_eq_true] at hfinal ⊢
  rw [← List.append_assoc]
  exact ⟨startsCased_append hfinal.1 front, hfinal.2⟩

/-- More behind a text makes no sigma final. -/
theorem keepsFinal_back (before after back cs : List Char) :
    KeepsFinal before (after ++ back) before after cs := by
  intro left right _ hfinal
  unfold isFinalSigma at hfinal ⊢
  rw [Bool.and_eq_true, Bool.not_eq_true'] at hfinal ⊢
  refine ⟨hfinal.1, Bool.eq_false_iff.mpr fun hright => ?_⟩
  rw [← List.append_assoc, startsCased_append hright] at hfinal
  cases hfinal.2

theorem KeepsFinal.tail {c : Char} (h : KeepsFinal before after front back (c :: cs)) :
    KeepsFinal (c :: before) after (c :: front) back cs := by
  intro left right hcs hfinal
  have hkeeps := h (c :: left) right (by rw [hcs, List.cons_append])
  simp only [List.reverse_cons, List.append_assoc, List.singleton_append] at hkeeps
  exact hkeeps hfinal

theorem KeepsFinal.finalSigma_le {c : Char} (h : KeepsFinal before after front back (c :: cs)) :
    finalSigma before (cs ++ after) c ≤ finalSigma front (cs ++ back) c := by
  unfold finalSigma
  split
  · next hfinal =>
    obtain ⟨rfl, hfinal⟩ := hfinal
    rw [if_pos ⟨rfl, h [] cs rfl hfinal⟩]
  · exact Nat.zero_le _

theorem KeepsFinal.finalSigmas_le (h : KeepsFinal before after front back cs) :
    finalSigmas before after cs ≤ finalSigmas front back cs := by
  induction cs generalizing before front with
  | nil => exact Nat.le_refl _
  | cons c cs ih => exact Nat.add_le_add h.finalSigma_le (ih h.tail)

theorem KeepsFinal.finalSigmas_lt (h : KeepsFinal before after front back cs)
    {left right : List Char} (hcs : cs = left ++ 'Σ' :: right)
    (hplain : isFinalSigma (left.reverse ++ before) (right ++ after) = false)
    (hfinal : isFinalSigma (left.reverse ++ front) (right ++ back) = true) :
    finalSigmas before after cs < finalSigmas front back cs := by
  induction left generalizing before front cs with
  | nil =>
    subst hcs
    refine Nat.add_lt_add_of_lt_of_le ?_ h.tail.finalSigmas_le
    have hzero : finalSigma before (right ++ after) 'Σ' = 0 := if_neg (by simpa using hplain)
    have hone : finalSigma front (right ++ back) 'Σ' = 1 := if_pos (by simpa using hfinal)
    rw [hzero, hone]
    exact Nat.zero_lt_one
  | cons c left ih =>
    subst hcs
    refine Nat.add_lt_add_of_le_of_lt h.finalSigma_le (ih h.tail rfl ?_ ?_)
    · simpa using hplain
    · simpa using hfinal

end Counting

/-! ## Parts whose lower case is found -/

section Parts

variable {cs text : List Char}

/-- Without an exposed sigma a part of a text has the same lower case as alone. -/
theorem lowerBetween_of_not_exposesSigma (h : ¬ ExposesSigma cs) (before after : List Char) :
    lowerBetween before after cs = lowerChars cs := by
  rw [← lowerBetween_nil_nil]
  refine lowerBetween_congr fun left right hcs => ?_
  rw [List.append_nil, List.append_nil]
  have hcovered : isExposed left.reverse right = false :=
    Bool.eq_false_iff.mpr fun hexposed => h ⟨left, right, hcs, hexposed⟩
  exact isFinalSigma_append hcovered before after

theorem infix_lowerChars (h : ¬ ExposesSigma cs) (hpart : cs <:+: text) :
    lowerChars cs <:+: lowerChars text := by
  obtain ⟨before, after, rfl⟩ := hpart
  rw [List.append_assoc, lowerChars_append, lowerBetween_of_not_exposesSigma h]
  exact ⟨_, _, List.append_assoc _ _ _⟩

theorem startsCased_letter : startsCased ['a'] = true := by decide +kernel

theorem lowerImage_letter (before after : List Char) : lowerImage before after 'a' = ['a'] :=
  (if_neg (by decide)).trans (by decide +kernel)

/-- A letter in front of a sigma that sees the start makes it final. -/
theorem not_infix_lowerChars_cons {before after : List Char} (hcs : cs = before ++ 'Σ' :: after)
    (hbefore : before.reverse.all isCaseIgnorable = true) (hafter : startsCased after = false) :
    ¬ lowerChars cs <:+: lowerChars ('a' :: cs) := by
  have hbehind : lowerChars ('a' :: cs) = 'a' :: lowerBetween ['a'] [] cs := by
    rw [lowerChars, lowerAfter_cons, lowerImage_letter, lowerBetween_nil, List.singleton_append]
  have hkeeps : KeepsFinal [] [] ['a'] [] cs := keepsFinal_front [] [] ['a'] cs
  have hlt := hkeeps.finalSigmas_lt hcs
    (by simp [isFinalSigma, startsCased_of_ignorable hbefore])
    (by simp [isFinalSigma, startsCased_append_of_ignorable hbefore, startsCased_letter, hafter])
  -- The sigma is one of those that are not final in the part, and not any more in the text.
  intro hinfix
  have hcount := hinfix.sublist.count_le 'σ'
  rw [← lowerBetween_nil_nil, hbehind, List.count_cons_of_ne (by decide)] at hcount
  have hcounts := (count_lowerBetween [] [] ['a'] [] cs).2
  omega

/-- A letter behind a sigma that sees the end keeps it from being final. -/
theorem not_infix_lowerChars_append {before after : List Char}
    (hcs : cs = before ++ 'Σ' :: after) (hbefore : startsCased before.reverse = true)
    (hafter : after.all isCaseIgnorable = true) :
    ¬ lowerChars cs <:+: lowerChars (cs ++ ['a']) := by
  have hfront : lowerChars (cs ++ ['a']) = lowerBetween [] ['a'] cs ++ ['a'] := by
    rw [lowerChars, lowerAfter_append, lowerAfter_cons, lowerImage_letter]
    rfl
  have hkeeps : KeepsFinal [] ['a'] [] [] cs := keepsFinal_back [] [] ['a'] cs
  have hlt := hkeeps.finalSigmas_lt hcs
    (by simp [isFinalSigma, startsCased_append_of_ignorable hafter, startsCased_letter])
    (by simp [isFinalSigma, startsCased_of_ignorable hafter, hbefore])
  -- The sigma is one of those that are final in the part, and not any more in the text.
  intro hinfix
  have hcount := hinfix.sublist.count_le 'ς'
  have hletter : ['a'].count 'ς' = 0 := by decide
  rw [← lowerBetween_nil_nil, hfront, List.count_append, hletter] at hcount
  have hcounts := (count_lowerBetween [] ['a'] [] [] cs).1
  omega

/-- A part that exposes a sigma has a text whose lower case it is missing from. -/
theorem exists_not_infix_lowerChars (h : ExposesSigma cs) :
    ∃ text, cs <:+: text ∧ ¬ lowerChars cs <:+: lowerChars text := by
  obtain ⟨before, after, hcs, hexposed⟩ := h
  rcases Bool.or_eq_true_iff.mp hexposed with hstart | hend
  · obtain ⟨hbefore, hafter⟩ := Bool.and_eq_true_iff.mp hstart
    exact ⟨'a' :: cs, ⟨['a'], [], by simp⟩,
      not_infix_lowerChars_cons hcs hbefore (by simpa using hafter)⟩
  · obtain ⟨hbefore, hafter⟩ := Bool.and_eq_true_iff.mp hend
    exact ⟨cs ++ ['a'], ⟨[], ['a'], by simp⟩, not_infix_lowerChars_append hcs hbefore hafter⟩

end Parts

end MediaNaming.Text
