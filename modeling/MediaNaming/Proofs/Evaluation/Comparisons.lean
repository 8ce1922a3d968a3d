import Mathlib.Order.Defs.Unbundled
import MediaNaming.Proofs.Evaluation.Categories

/-!
# Laws of comparisons

Values compare unless one of them is a flag. They are equal if they have the same text, whether they
are numbers or not, since numbers that are written alike are the same; they are ordered by their
numbers, the sizes of texts and collections. So equality is an equivalence and the order a strict
weak one, across all categories that compare.
-/

namespace MediaNaming

/-! ## Comparisons of values -/

/-- Numbers that are written alike are the same. -/
theorem Text.int_toInt_inj {m n : Int64} : Text.int m.toInt = Text.int n.toInt ↔ m = n := by
  refine ⟨fun h => ?_, fun h => by rw [h]⟩
  have hchars : intChars m.toInt = intChars n.toInt := String.ofList_injective h
  have hread := (readInt?_intChars m.toInt).symm.trans (hchars ▸ readInt?_intChars n.toInt)
  exact Int64.toInt_inj.mp (Option.some.inj hread)

section Values

variable {a b : Value}

/-- Two numbers are the same just when their texts are, so equality is that of texts throughout. -/
theorem Value.same?_eq_some {s t : String} (hs : a.toText? = some s) (ht : b.toText? = some t) :
    a.same? b = some (s == t) := by
  unfold same?
  split
  · next m n =>
    cases hs
    cases ht
    refine congrArg some (Bool.eq_iff_iff.mpr ?_)
    rw [beq_iff_eq, beq_iff_eq, Text.int_toInt_inj]
  · rw [hs, ht]
    rfl

theorem Value.related?_eq_some {m n : Int64} (hm : a.toNumber? = some m)
    (hn : b.toNumber? = some n) (relation : Int64 → Int64 → Bool) :
    a.related? relation b = some (relation m n) := by
  rw [related?, hm, hn]
  rfl

/-- A comparison has no answer if a side is a flag, whichever comparison and whichever side. -/
theorem Comparison.holds?_eq_none_iff (comparison : Comparison) :
    comparison.holds? a b = none ↔ a.category = .flag ∨ b.category = .flag := by
  constructor
  · intro hnone
    refine Decidable.or_iff_not_not_and_not.mpr fun ⟨ha, hb⟩ => ?_
    obtain ⟨holds, hholds⟩ := holds?_of_not_flag ha hb comparison
    rw [hnone] at hholds
    cases hholds
  · rintro (h | h)
    · cases a <;> cases h
      cases comparison <;> rfl
    · cases b <;> cases h
      cases comparison <;> cases a <;> rfl

end Values

/-! ## Comparisons of expressions -/

section Expressions

variable {request : Request} {left right : Expr} {a b : Value}

theorem eval_compare (ha : left.eval request = .ok a) (hb : right.eval request = .ok b)
    (comparison : Comparison) :
    (Expr.compare comparison left right).eval request =
      match comparison.holds? a b with
      | some holds => .ok (.flag holds)
      | none =>
        .error (.incomparable (Expr.compare comparison left right).description a.category
          b.category) := by
  unfold Expr.eval
  rw [ha, hb, ok_bind, ok_bind, Comparison.check]
  cases comparison.holds? a b <;> rfl

end Expressions

/--
An expression with its value for a request. The value is no flag, so the expression compares with
others.
-/
structure Operand (request : Request) where
  expr : Expr
  value : Value
  eval_eq : expr.eval request = .ok value
  category_ne : value.category ≠ .flag

namespace Operand

variable {request : Request}

/-- The comparison of the expressions is true. -/
def Holds (comparison : Comparison) (left right : Operand request) : Prop :=
  (Expr.compare comparison left.expr right.expr).eval request = .ok (.flag true)

theorem isSome_toText? (operand : Operand request) : operand.value.toText?.isSome = true :=
  Option.isSome_iff_ne_none.mpr (mt Value.toText?_eq_none_iff.mp operand.category_ne)

theorem isSome_toNumber? (operand : Operand request) : operand.value.toNumber?.isSome = true :=
  Option.isSome_iff_ne_none.mpr (mt Value.toNumber?_eq_none_iff.mp operand.category_ne)

def text (operand : Operand request) : String :=
  operand.value.toText?.get operand.isSome_toText?

def number (operand : Operand request) : Int64 :=
  operand.value.toNumber?.get operand.isSome_toNumber?

theorem toText?_value (operand : Operand request) :
    operand.value.toText? = some operand.text :=
  (Option.some_get _).symm

theorem toNumber?_value (operand : Operand request) :
    operand.value.toNumber? = some operand.number :=
  (Option.some_get _).symm

/-- What a comparison says about the texts or the numbers of two values. -/
def Relates (left right : Operand request) : Comparison → Prop
  | .equal => left.text = right.text
  | .notEqual => left.text ≠ right.text
  | .less => left.number < right.number
  | .lessEqual => left.number ≤ right.number
  | .greater => right.number < left.number
  | .greaterEqual => right.number ≤ left.number

theorem holds_iff {comparison : Comparison} {left right : Operand request} :
    Holds comparison left right ↔ left.Relates right comparison := by
  have hsame := Value.same?_eq_some left.toText?_value right.toText?_value
  have hrelated := Value.related?_eq_some left.toNumber?_value right.toNumber?_value
  unfold Holds
  rw [eval_compare left.eval_eq right.eval_eq]
  cases comparison with
  | equal => simp [Comparison.holds?, hsame, Relates]
  | notEqual => simp [Comparison.holds?, hsame, Relates]
  | _ => simp [Comparison.holds?, hrelated, Relates]

/-! ## The laws -/

theorem equivalence_holds_equal (request : Request) :
    Equivalence fun left right : Operand request => Holds .equal left right where
  refl _ := holds_iff.mpr rfl
  symm h := holds_iff.mpr (Eq.symm (holds_iff.mp h))
  trans h h' := holds_iff.mpr (Eq.trans (holds_iff.mp h) (holds_iff.mp h'))

theorem isStrictWeakOrder_holds_less (request : Request) :
    IsStrictWeakOrder (Operand request) (Holds .less) where
  irrefl operand h := Int64.lt_irrefl (holds_iff.mp h)
  trans _ _ _ h h' := holds_iff.mpr (Int64.lt_trans (holds_iff.mp h) (holds_iff.mp h'))
  incomp_trans left middle right h h' := by
    -- Operands that neither is less than the other have the same number.
    simp only [holds_iff, Relates, Int64.not_lt] at h h' ⊢
    exact ⟨Int64.le_trans h'.1 h.1, Int64.le_trans h.2 h'.2⟩

/--
For every request, a comparison of two expressions that have a value is an error just when one of
the values is a flag; else it is true or false. Equal are the values that have the same text, which
is an equivalence; less is a strict weak order; and the other four comparisons are these two, turned
around or denied.
-/
theorem comparisons_are_lawful (request : Request) :
    (∀ (left right : Expr) (a b : Value),
      left.eval request = .ok a → right.eval request = .ok b → ∀ comparison : Comparison,
        ((Expr.compare comparison left right).eval request =
            .error (.incomparable (Expr.compare comparison left right).description a.category
              b.category) ↔
          a.category = .flag ∨ b.category = .flag) ∧
        ((∃ holds, (Expr.compare comparison left right).eval request = .ok (.flag holds)) ↔
          a.category ≠ .flag ∧ b.category ≠ .flag)) ∧
    (∀ left right : Operand request,
      (Holds .equal left right ↔ left.value.toText? = right.value.toText?) ∧
      (Holds .notEqual left right ↔ ¬ Holds .equal left right) ∧
      (Holds .greaterEqual left right ↔ ¬ Holds .less left right) ∧
      (Holds .greater left right ↔ ¬ Holds .lessEqual left right) ∧
      (Holds .less left right ↔ Holds .greater right left)) ∧
    (Equivalence fun left right : Operand request => Holds .equal left right) ∧
    IsStrictWeakOrder (Operand request) (Holds .less) := by
  refine ⟨fun left right a b ha hb comparison => ?_, fun left right => ?_,
    equivalence_holds_equal request, isStrictWeakOrder_holds_less request⟩
  · rw [eval_compare ha hb, ← not_or, ← comparison.holds?_eq_none_iff]
    cases comparison.holds? a b <;> simp
  · simp only [holds_iff, Relates, Int64.not_lt, Int64.not_le, left.toText?_value,
      right.toText?_value, Option.some.injEq, ne_eq, and_self, iff_self]

/-- A number and a collection that are both written `7`, though the number is the greater one. -/
theorem comparisons_are_lawful_of_sevens :
    let request : Request := {
      file := { id := 1, path := "a.mkv", content := some { audio := [{ codec := "7" }] } }
      anime := [{ id := 7, preferredTitle := "A", kind := .movie }]
      episodes := [] }
    let number : Expr := .label (.number .animeId)
    let codecs : Expr := .label (.collection .audioCodecs)
    let flag : Expr := .label (.flag .restricted)
    number.eval request = .ok (.number 7) ∧
      codecs.eval request = .ok (.collection (.texts ["7"])) ∧
      flag.eval request = .ok (.flag false) ∧
      (Expr.compare .equal number codecs).eval request = .ok (.flag true) ∧
      (Expr.compare .less codecs number).eval request = .ok (.flag true) ∧
      (Expr.compare .less flag number).eval request =
        .error (.incomparable (Expr.compare .less flag number).description .flag .number) := by
  intro request number codecs flag
  have hnumber : number.eval request = .ok (.number 7) := rfl
  have hcodecs : codecs.eval request = .ok (.collection (.texts ["7"])) := rfl
  have hflag : flag.eval request = .ok (.flag false) := rfl
  obtain ⟨hfails, hdefined, hequal, -⟩ := comparisons_are_lawful request
  let seven : Operand request := ⟨number, _, hnumber, by decide⟩
  let word : Operand request := ⟨.text "7", .text "7", rfl, by decide⟩
  let list : Operand request := ⟨codecs, _, hcodecs, by decide⟩
  have hword : (Value.number 7).toText? = (Value.text "7").toText? := by decide +kernel
  have hlist : (Value.text "7").toText? = (Value.collection (.texts ["7"])).toText? := by
    decide +kernel
  have hgreater : Holds .greater seven list := holds_iff.mpr (show (1 : Int64) < 7 by decide)
  refine ⟨hnumber, hcodecs, hflag, ?_, ?_, ?_⟩
  · exact hequal.trans ((hdefined seven word).1.mpr hword) ((hdefined word list).1.mpr hlist)
  · exact (hdefined list seven).2.2.2.2.mpr hgreater
  · exact (hfails flag number _ _ hflag hnumber .less).1.mpr (.inl rfl)

end Operand

end MediaNaming
