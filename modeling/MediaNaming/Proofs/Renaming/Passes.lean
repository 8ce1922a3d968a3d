import MediaNaming.Proofs.Results
import MediaNaming.Script.Pass

/-!
# The two passes end alike

Passes differ in the statements that they leave out. Those only write buffers, and neither a
condition nor a `skip` or `cancel` looks at a buffer. So two passes over one program take the same
way, up to the point where one of them fails to evaluate something.
-/

namespace MediaNaming

/-! ## Results of passes -/

/-- Two passes end alike, or one of them could not evaluate something. -/
inductive Alike : Except PassError Outcome → Except PassError Outcome → Prop
  | completed (left right : Buffers) : Alike (.ok (.completed left)) (.ok (.completed right))
  | skipped : Alike (.ok .skipped) (.ok .skipped)
  | cancelled (message : String) :
      Alike (.error (.cancelled message)) (.error (.cancelled message))
  | evalLeft (error : EvalError) (right : Except PassError Outcome) :
      Alike (.error (.eval error)) right
  | evalRight (left : Except PassError Outcome) (error : EvalError) :
      Alike left (.error (.eval error))

namespace Alike

variable {left right : Except PassError Outcome}

/-- One evaluation that both passes do. -/
theorem bind_ofEval {α : Type} (result : Except EvalError α)
    {f g : α → Except PassError Outcome} (h : ∀ a, Alike (f a) (g a)) :
    Alike (ofEval result >>= f) (ofEval result >>= g) := by
  cases result with
  | error error => exact .evalLeft error _
  | ok a => exact h a

/-- What one pass does behind a statement that completes, as `Statement.runAll` goes on. -/
theorem bind {f g : Outcome → Except PassError Outcome} (h : Alike left right)
    (hskipped : Alike (f .skipped) (g .skipped))
    (hcompleted : ∀ b c, Alike (f (.completed b)) (g (.completed c))) :
    Alike (left >>= f) (right >>= g) := by
  cases h with
  | completed b c => exact hcompleted b c
  | skipped => exact hskipped
  | cancelled message => exact .cancelled message
  | evalLeft error => exact .evalLeft error _
  | evalRight _ error => exact .evalRight _ error

/-! ### What it says about results -/

theorem completed_iff (h : Alike left right) (hleft : ∀ error, left ≠ .error (.eval error))
    (hright : ∀ error, right ≠ .error (.eval error)) :
    (∃ b, left = .ok (.completed b)) ↔ ∃ c, right = .ok (.completed c) := by
  cases h with
  | completed b c => exact ⟨fun _ => ⟨c, rfl⟩, fun _ => ⟨b, rfl⟩⟩
  | skipped => exact Iff.rfl
  | cancelled message => exact Iff.rfl
  | evalLeft error => exact absurd rfl (hleft error)
  | evalRight _ error => exact absurd rfl (hright error)

theorem skipped_iff (h : Alike left right) (hleft : ∀ error, left ≠ .error (.eval error))
    (hright : ∀ error, right ≠ .error (.eval error)) :
    left = .ok .skipped ↔ right = .ok .skipped := by
  cases h with
  | completed b c => simp
  | skipped => exact Iff.rfl
  | cancelled message => exact Iff.rfl
  | evalLeft error => exact absurd rfl (hleft error)
  | evalRight _ error => exact absurd rfl (hright error)

theorem cancelled_iff (h : Alike left right) (hleft : ∀ error, left ≠ .error (.eval error))
    (hright : ∀ error, right ≠ .error (.eval error)) (message : String) :
    left = .error (.cancelled message) ↔ right = .error (.cancelled message) := by
  cases h with
  | completed b c => simp
  | skipped => exact Iff.rfl
  | cancelled message => exact Iff.rfl
  | evalLeft error => exact absurd rfl (hleft error)
  | evalRight _ error => exact absurd rfl (hright error)

end Alike

/-! ## Writing statements -/

/-- A run that can only write buffers or fail to evaluate something. -/
inductive OnlyWrites : Except PassError Outcome → Prop
  | completed (buffers : Buffers) : OnlyWrites (.ok (.completed buffers))
  | failed (error : EvalError) : OnlyWrites (.error (.eval error))

theorem OnlyWrites.alike {left right : Except PassError Outcome} (hleft : OnlyWrites left)
    (hright : OnlyWrites right) : Alike left right := by
  cases hleft with
  | failed error => exact .evalLeft error right
  | completed b =>
    cases hright with
    | failed error => exact .evalRight _ error
    | completed c => exact .completed b c

theorem onlyWrites_bind_ofEval {α : Type} (result : Except EvalError α)
    {f : α → Except PassError Outcome} (h : ∀ a, OnlyWrites (f a)) :
    OnlyWrites (ofEval result >>= f) := by
  cases result with
  | error error => exact .failed error
  | ok a => exact h a

theorem onlyWrites_ite {condition : Bool} {write : Except PassError Outcome} {buffers : Buffers}
    (h : OnlyWrites write) :
    OnlyWrites (if condition then write else .ok (.completed buffers)) := by
  cases condition with
  | true => exact h
  | false => exact .completed buffers

section Running

variable (request : Request)

theorem onlyWrites_set (pass : Pass) (buffers : Buffers) (target : Target) (parts : List Expr) :
    OnlyWrites (Statement.run pass request buffers (.set target parts)) := by
  unfold Statement.run
  exact onlyWrites_ite (onlyWrites_bind_ofEval _ fun text => .completed _)

theorem onlyWrites_add (pass : Pass) (buffers : Buffers) (target : Target) (parts : List Expr) :
    OnlyWrites (Statement.run pass request buffers (.add target parts)) := by
  unfold Statement.run
  exact onlyWrites_ite (onlyWrites_bind_ofEval _ fun text => .completed _)

theorem onlyWrites_replace (pass : Pass) (buffers : Buffers) (target : Target)
    (pattern image : Expr) :
    OnlyWrites (Statement.run pass request buffers (.replace target pattern image)) := by
  unfold Statement.run
  refine onlyWrites_ite (onlyWrites_bind_ofEval _ fun pattern => ?_)
  exact onlyWrites_bind_ofEval _ fun image => .completed _

/-! ## Running programs -/

variable (left right : Pass)

mutual

/-- One statement ends alike in two passes, whatever their buffers hold. -/
theorem alike_run (statement : Statement) (b c : Buffers) :
    Alike (statement.run left request b) (statement.run right request c) := by
  cases statement with
  | choose branches =>
    unfold Statement.run
    exact alike_branches branches b c
  | set target parts =>
    exact (onlyWrites_set request left b target parts).alike
      (onlyWrites_set request right c target parts)
  | add target parts =>
    exact (onlyWrites_add request left b target parts).alike
      (onlyWrites_add request right c target parts)
  | replace target pattern image =>
    exact (onlyWrites_replace request left b target pattern image).alike
      (onlyWrites_replace request right c target pattern image)
  | skip =>
    unfold Statement.run
    exact .skipped
  | cancel parts =>
    unfold Statement.run
    exact .bind_ofEval _ fun message => .cancelled message

theorem alike_branches (branches : Branches) (b c : Buffers) :
    Alike (branches.run left request b) (branches.run right request c) := by
  cases branches with
  | done =>
    unfold Branches.run
    exact .completed b c
  | otherwise body =>
    unfold Branches.run
    exact alike_runAll body b c
  | branch condition body rest =>
    unfold Branches.run
    -- A condition looks at the request alone, so both passes take the same branch.
    refine .bind_ofEval _ fun holds => ?_
    cases holds with
    | true => exact alike_runAll body b c
    | false => exact alike_branches rest b c

theorem alike_runAll (statements : List Statement) (b c : Buffers) :
    Alike (Statement.runAll left request b statements)
      (Statement.runAll right request c statements) := by
  cases statements with
  | nil =>
    unfold Statement.runAll
    exact .completed b c
  | cons statement statements =>
    unfold Statement.runAll
    -- The buffers may differ from here on, so the rest has to be alike for all of them.
    refine (alike_run statement b c).bind .skipped fun b' c' => ?_
    exact alike_runAll statements b' c'

end

theorem alike_program (program : Program) :
    Alike (program.run left request) (program.run right request) :=
  alike_runAll request left right program.statements {} {}

end Running

end MediaNaming
