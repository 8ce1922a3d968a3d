import MediaNaming.Proofs.Evaluation.Categories
import MediaNaming.Script.Pass

/-!
# Programs that evaluate

A program whose expressions suit the places where they stand never fails to evaluate: for every
request each pass over it completes, skips, or is cancelled by the script itself.
-/

namespace MediaNaming

/-! ## Categories of operands -/

mutual

/-- Whether the statement has operands that have a text, and these have operands that suit them. -/
def Statement.wellCategorised : Statement → Bool
  | .choose branches => branches.wellCategorised
  | .set _ parts => Expr.operandsWellCategorised parts
  | .add _ parts => Expr.operandsWellCategorised parts
  | .replace _ pattern image => Expr.operandsWellCategorised [pattern, image]
  | .skip => true
  | .cancel parts => Expr.operandsWellCategorised parts

def Branches.wellCategorised : Branches → Bool
  | .done => true
  | .otherwise body => Statement.allWellCategorised body
  | .branch condition body rest =>
    condition.wellCategorised && Statement.allWellCategorised body && rest.wellCategorised

def Statement.allWellCategorised : List Statement → Bool
  | [] => true
  | statement :: statements =>
    statement.wellCategorised && Statement.allWellCategorised statements

end

def Program.WellCategorised (program : Program) : Prop :=
  Statement.allWellCategorised program.statements = true

instance (program : Program) : Decidable program.WellCategorised :=
  inferInstanceAs (Decidable (_ = _))

/-! ## Parts of paths -/

section Paths

variable (request : Request)

theorem yields_evalText {expr : Expr} (h : expr.wellCategorised = true)
    (hflag : expr.isFlag = false) : Yields (expr.evalText request) fun _ => True :=
  (yields_eval request expr h).bind fun _ hvalue => hvalue.asText hflag

mutual

/-- An expression has a text as part of a path wherever it has one elsewhere. -/
theorem yields_evalPath (expr : Expr) (h : expr.wellCategorised = true)
    (hflag : expr.isFlag = false) : Yields (expr.evalPath request) fun _ => True := by
  cases expr with
  | text words => unfold Expr.evalPath; exact .ok trivial
  | concat parts => unfold Expr.evalPath; exact yields_joinedPaths parts h
  | _ =>
    unfold Expr.evalPath
    exact (yields_evalText request h hflag).bind fun words _ => .ok trivial

theorem yields_joinedPaths (parts : List Expr) (h : Expr.operandsWellCategorised parts = true) :
    Yields (Expr.joinedPaths request parts) fun _ => True := by
  cases parts with
  | nil => unfold Expr.joinedPaths; exact .ok trivial
  | cons part parts =>
    simp only [Expr.operandsWellCategorised, Bool.and_eq_true, Bool.not_eq_true'] at h
    obtain ⟨⟨hflag, hpart⟩, hparts⟩ := h
    unfold Expr.joinedPaths
    refine (yields_evalPath part hpart hflag).bind fun words _ => ?_
    exact (yields_joinedPaths parts hparts).bind fun words _ => .ok trivial

end

theorem yields_operandText (target : Target) {operand : Expr}
    (h : operand.wellCategorised = true) (hflag : operand.isFlag = false) :
    Yields (target.operandText request operand) fun _ => True := by
  cases target with
  | subfolder => exact yields_evalPath request operand h hflag
  | _ => exact yields_evalText request h hflag

theorem yields_joined (target : Target) (operands : List Expr)
    (h : Expr.operandsWellCategorised operands = true) :
    Yields (target.joined request operands) fun _ => True := by
  induction operands with
  | nil => exact .ok trivial
  | cons operand operands ih =>
    simp only [Expr.operandsWellCategorised, Bool.and_eq_true, Bool.not_eq_true'] at h
    obtain ⟨⟨hflag, hoperand⟩, hoperands⟩ := h
    unfold Target.joined
    refine (yields_operandText request target hoperand hflag).bind fun words _ => ?_
    exact (ih hoperands).bind fun words _ => .ok trivial

end Paths

/-! ## Passes that evaluate -/

/-- A pass that completes, skips, or is cancelled by the script. -/
inductive Evaluates : Except PassError Outcome → Prop
  | completed (buffers : Buffers) : Evaluates (.ok (.completed buffers))
  | skipped : Evaluates (.ok .skipped)
  | cancelled (message : String) : Evaluates (.error (.cancelled message))

namespace Evaluates

variable {result : Except PassError Outcome}

/-- An evaluation that succeeds lets the pass go on. -/
theorem bind_ofEval {α : Type} {x : Except EvalError α} {post : α → Prop}
    {f : α → Except PassError Outcome} (h : Yields x post) (hf : ∀ a, Evaluates (f a)) :
    Evaluates (ofEval x >>= f) := by
  obtain ⟨a, rfl, -⟩ := h
  exact hf a

theorem bind {f : Outcome → Except PassError Outcome} (h : Evaluates result)
    (hskipped : Evaluates (f .skipped)) (hcompleted : ∀ b, Evaluates (f (.completed b))) :
    Evaluates (result >>= f) := by
  cases h with
  | completed buffers => exact hcompleted buffers
  | skipped => exact hskipped
  | cancelled message => exact .cancelled message

/-- A statement that the pass leaves out does nothing. -/
theorem ite {runs : Bool} {buffers : Buffers} (h : Evaluates result) :
    Evaluates (if runs then result else .ok (.completed buffers)) := by
  cases runs with
  | true => exact h
  | false => exact .completed buffers

theorem ne_eval (h : Evaluates result) (error : EvalError) : result ≠ .error (.eval error) := by
  cases h <;> simp

end Evaluates

section Running

variable (pass : Pass) (request : Request)

mutual

theorem evaluates_run (statement : Statement) (h : statement.wellCategorised = true)
    (buffers : Buffers) : Evaluates (statement.run pass request buffers) := by
  cases statement with
  | choose branches => unfold Statement.run; exact evaluates_branches branches h buffers
  | set target parts =>
    unfold Statement.run
    exact .ite (.bind_ofEval (yields_joined request target parts h) fun text => .completed _)
  | add target parts =>
    unfold Statement.run
    exact .ite (.bind_ofEval (yields_joined request target parts h) fun text => .completed _)
  | replace target pattern image =>
    simp only [Statement.wellCategorised, Expr.operandsWellCategorised, Bool.and_eq_true,
      Bool.not_eq_true'] at h
    obtain ⟨⟨hpattern, hp⟩, ⟨himage, hi⟩, -⟩ := h
    unfold Statement.run
    refine .ite (.bind_ofEval (yields_operandText request target hp hpattern) fun _ => ?_)
    exact .bind_ofEval (yields_operandText request target hi himage) fun _ => .completed _
  | skip => unfold Statement.run; exact .skipped
  | cancel parts =>
    unfold Statement.run
    exact .bind_ofEval (yields_joinedTexts request parts h) fun message => .cancelled message

theorem evaluates_branches (branches : Branches) (h : branches.wellCategorised = true)
    (buffers : Buffers) : Evaluates (branches.run pass request buffers) := by
  cases branches with
  | done => unfold Branches.run; exact .completed buffers
  | otherwise body => unfold Branches.run; exact evaluates_runAll body h buffers
  | branch condition body rest =>
    simp only [Branches.wellCategorised, Bool.and_eq_true] at h
    obtain ⟨⟨hcondition, hbody⟩, hrest⟩ := h
    unfold Branches.run
    have hholds : Yields (condition.evalTruth request) fun _ => True :=
      (yields_eval request condition hcondition).bind fun value _ => .ok trivial
    refine .bind_ofEval hholds fun holds => ?_
    cases holds with
    | true => exact evaluates_runAll body hbody buffers
    | false => exact evaluates_branches rest hrest buffers

/-- Whatever the buffers hold, since no statement fails because of them. -/
theorem evaluates_runAll (statements : List Statement)
    (h : Statement.allWellCategorised statements = true) (buffers : Buffers) :
    Evaluates (Statement.runAll pass request buffers statements) := by
  cases statements with
  | nil => unfold Statement.runAll; exact .completed buffers
  | cons statement statements =>
    simp only [Statement.allWellCategorised, Bool.and_eq_true] at h
    unfold Statement.runAll
    refine (evaluates_run statement h.1 buffers).bind .skipped fun buffers => ?_
    exact evaluates_runAll statements h.2 buffers

end

end Running

/--
A program whose expressions suit their places evaluates in both passes, for every request: nothing
that a request leaves out can make it fail.
-/
theorem program_evaluates (program : Program) (h : program.WellCategorised) (request : Request)
    (pass : Pass) :
    Evaluates (program.run pass request) ∧
      ∀ error, program.run pass request ≠ .error (.eval error) := by
  have hevaluates := evaluates_runAll pass request program.statements h {}
  exact ⟨hevaluates, hevaluates.ne_eval⟩

/--
A script that filters titles by language, kind and text, pads, compares across categories and
replaces in the subfolder, for a request that tells nothing but the path of a file.
-/
theorem program_evaluates_of_unknown_file :
    let titles : Expr := .has (.has (.label (.collection .animeTitles)) [.language .english])
      [.titleKind .main, .text (.label (.number .episodeNumber))]
    let program : Program := ⟨[
      .choose (.branch (.compare .less titles (.label (.text .animeType)))
        [.cancel [titles, .pad (.len titles) (.number 32)]] (.otherwise
        [.set .unnamed [.first titles, .episodes (.number (-1))]])),
      .set .subfolder [.concat [.text "a/", .label (.collection .dubLanguages)]],
      .replace .subfolder (.text "/") (.label (.collection .importFolders))]⟩
    let request : Request := { file := { id := 1, path := "" }, anime := [], episodes := [] }
    program.WellCategorised ∧ Evaluates (program.run .filename request) ∧
      Evaluates (program.run .placement request) := by
  intro titles program request
  have h : program.WellCategorised := by decide +kernel
  exact ⟨h, (program_evaluates program h request .filename).1,
    (program_evaluates program h request .placement).1⟩

end MediaNaming
