import MediaNaming.Script.Pass

/-!
# Programs without some of their statements

The statements that write to some of the targets can be removed from a program, wherever they stand.
Each pass runs a program as it runs what is left when the statements of the other pass are removed.
-/

namespace MediaNaming

/-! ## Removing statements -/

/-- The target of a statement that writes to a buffer. -/
def Statement.target? : Statement → Option Target
  | .set target _ => some target
  | .add target _ => some target
  | .replace target _ _ => some target
  | _ => none

mutual

/-- The statement, with the removed statements within it left out. -/
def Statement.without (removed : Target → Bool) : Statement → Statement
  | .choose branches => .choose (branches.without removed)
  | statement => statement

/-- All conditions stay, and so do bodies of which nothing is left. -/
def Branches.without (removed : Target → Bool) : Branches → Branches
  | .done => .done
  | .otherwise body => .otherwise (Statement.withoutAll removed body)
  | .branch condition body rest =>
    .branch condition (Statement.withoutAll removed body) (rest.without removed)

/-- The statements that do not write to a removed target, at every depth. -/
def Statement.withoutAll (removed : Target → Bool) : List Statement → List Statement
  | [] => []
  | statement :: statements =>
    if statement.target?.any removed then
      Statement.withoutAll removed statements
    else
      statement.without removed :: Statement.withoutAll removed statements

end

def Program.without (program : Program) (removed : Target → Bool) : Program :=
  ⟨Statement.withoutAll removed program.statements⟩

section Lists

variable {removed : Target → Bool} {statement : Statement}

theorem withoutAll_of_removed {target : Target} (htarget : statement.target? = some target)
    (hremoved : removed target = true) (statements : List Statement) :
    Statement.withoutAll removed (statement :: statements) =
      Statement.withoutAll removed statements := by
  rw [Statement.withoutAll, htarget, Option.any_some, if_pos hremoved]

theorem withoutAll_of_kept (hkept : statement.target?.any removed = false)
    (statements : List Statement) :
    Statement.withoutAll removed (statement :: statements) =
      statement.without removed :: Statement.withoutAll removed statements := by
  rw [Statement.withoutAll, hkept, if_neg Bool.false_ne_true]

end Lists

/-! ## Targets that are left -/

mutual

/-- The targets that a statement, and those within it, write to, in order. -/
def Statement.targets : Statement → List Target
  | .choose branches => branches.targets
  | .set target _ => [target]
  | .add target _ => [target]
  | .replace target _ _ => [target]
  | _ => []

def Branches.targets : Branches → List Target
  | .done => []
  | .otherwise body => Statement.targetsAll body
  | .branch _ body rest => Statement.targetsAll body ++ rest.targets

def Statement.targetsAll : List Statement → List Target
  | [] => []
  | statement :: statements => statement.targets ++ Statement.targetsAll statements

end

def Program.targets (program : Program) : List Target :=
  Statement.targetsAll program.statements

section Targets

variable {removed : Target → Bool}

/-- A statement that writes has no target but its own. -/
theorem Statement.targets_of_target? {statement : Statement} {target : Target}
    (h : statement.target? = some target) : statement.targets = [target] := by
  cases statement with
  | set found parts => cases h; rfl
  | add found parts => cases h; rfl
  | replace found pattern image => cases h; rfl
  | _ => cases h

theorem filter_of_kept {target : Target} (hkept : (some target).any removed = false) :
    [target] = [target].filter fun target => !removed target := by
  rw [Option.any_some] at hkept
  rw [List.filter_cons_of_pos (by simp [hkept]), List.filter_nil]

mutual

theorem targets_without (statement : Statement) (hkept : statement.target?.any removed = false) :
    (statement.without removed).targets =
      statement.targets.filter fun target => !removed target := by
  cases statement with
  | choose branches => exact targets_branches branches
  | set target parts => exact filter_of_kept hkept
  | add target parts => exact filter_of_kept hkept
  | replace target pattern image => exact filter_of_kept hkept
  | skip => rfl
  | cancel parts => rfl

theorem targets_branches (branches : Branches) :
    (branches.without removed).targets = branches.targets.filter fun target => !removed target := by
  cases branches with
  | done => rfl
  | otherwise body => exact targets_withoutAll body
  | branch condition body rest =>
    unfold Branches.without Branches.targets
    rw [targets_withoutAll body, targets_branches rest, List.filter_append]

/-- Of the targets exactly the removed ones are gone, and the others keep their order. -/
theorem targets_withoutAll (statements : List Statement) :
    Statement.targetsAll (Statement.withoutAll removed statements) =
      (Statement.targetsAll statements).filter fun target => !removed target := by
  cases statements with
  | nil => rfl
  | cons statement statements =>
    have hrest := targets_withoutAll statements
    rw [Statement.targetsAll, List.filter_append, ← hrest]
    cases hkept : statement.target?.any removed with
    | true =>
      obtain ⟨target, htarget, hremoved⟩ := (Option.any_eq_true _ _).mp hkept
      rw [withoutAll_of_removed htarget hremoved, Statement.targets_of_target? htarget]
      simp [hremoved]
    | false =>
      rw [withoutAll_of_kept hkept, Statement.targetsAll, targets_without statement hkept]

end

end Targets

/-! ## Running what is left -/

section Running

variable {pass : Pass} {removed : Target → Bool} (request : Request)

/-- A pass does nothing at a statement that it leaves out, not even evaluate its operands. -/
theorem run_of_target? {statement : Statement} {target : Target}
    (htarget : statement.target? = some target) (hruns : pass.runs target = false)
    (buffers : Buffers) : statement.run pass request buffers = .ok (.completed buffers) := by
  cases statement with
  | set found parts =>
    cases htarget
    unfold Statement.run
    rw [hruns, if_neg Bool.false_ne_true]
  | add found parts =>
    cases htarget
    unfold Statement.run
    rw [hruns, if_neg Bool.false_ne_true]
  | replace found pattern image =>
    cases htarget
    unfold Statement.run
    rw [hruns, if_neg Bool.false_ne_true]
  | _ => cases htarget

mutual

theorem run_without (h : ∀ target, removed target = true → pass.runs target = false)
    (statement : Statement) (buffers : Buffers) :
    (statement.without removed).run pass request buffers = statement.run pass request buffers := by
  cases statement with
  | choose branches =>
    unfold Statement.without Statement.run
    exact branches_without h branches buffers
  | _ => rfl

theorem branches_without (h : ∀ target, removed target = true → pass.runs target = false)
    (branches : Branches) (buffers : Buffers) :
    (branches.without removed).run pass request buffers = branches.run pass request buffers := by
  cases branches with
  | done => rfl
  | otherwise body =>
    unfold Branches.without Branches.run
    exact runAll_without h body buffers
  | branch condition body rest =>
    -- The condition stays, so it holds or fails as before.
    unfold Branches.without Branches.run
    rw [runAll_without h body buffers, branches_without h rest buffers]

theorem runAll_without (h : ∀ target, removed target = true → pass.runs target = false)
    (statements : List Statement) (buffers : Buffers) :
    Statement.runAll pass request buffers (Statement.withoutAll removed statements) =
      Statement.runAll pass request buffers statements := by
  cases statements with
  | nil => rfl
  | cons statement statements =>
    -- The rest runs on whatever buffers the first statement leaves.
    have hrest : ∀ between, Statement.runAll pass request between
        (Statement.withoutAll removed statements) =
          Statement.runAll pass request between statements :=
      fun between => runAll_without h statements between
    cases hkept : statement.target?.any removed with
    | true =>
      obtain ⟨target, htarget, hremoved⟩ := (Option.any_eq_true _ _).mp hkept
      rw [withoutAll_of_removed htarget hremoved, hrest, Statement.runAll,
        run_of_target? request htarget (h target hremoved)]
      rfl
    | false =>
      rw [withoutAll_of_kept hkept, Statement.runAll, Statement.runAll,
        run_without h statement buffers]
      simp only [hrest]

end

end Running

/--
Each pass is blind to the statements of the other: it ends as it does over the program from which
they are removed at every depth, with the same buffers, error or message. What is removed are
exactly the statements with a target of the other pass.
-/
theorem pass_ignores_other_targets (program : Program) (request : Request) :
    program.run .filename request =
        (program.without Target.isPlacement).run .filename request ∧
      program.run .placement request =
        (program.without fun target => !target.isPlacement).run .placement request ∧
      (program.without Target.isPlacement).targets =
        program.targets.filter (fun target => !target.isPlacement) ∧
      (program.without fun target => !target.isPlacement).targets =
        program.targets.filter Target.isPlacement := by
  refine ⟨?_, ?_, targets_withoutAll program.statements, ?_⟩
  · refine (runAll_without request (fun target htarget => ?_) program.statements {}).symm
    rw [Pass.runs, htarget]
    rfl
  · refine (runAll_without request (fun target htarget => ?_) program.statements {}).symm
    simpa [Pass.runs] using htarget
  · refine (targets_withoutAll program.statements).trans ?_
    simp [Program.targets]

end MediaNaming
