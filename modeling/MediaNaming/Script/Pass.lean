import MediaNaming.Script.Buffers
import MediaNaming.Script.Eval

/-!
# Passes

A program runs twice, each time with empty buffers: one pass writes the filename, the other says
where the file goes. Conditions, `skip` and `cancel` take effect in both.
-/

namespace MediaNaming

/-! ## Writing to buffers -/

namespace Buffers

/-- The text of the buffer that a target names. -/
def read (buffers : Buffers) : Target → String
  | .filename => buffers.filename
  | .unnamed => buffers.filename
  | .destination => buffers.destination
  | .subfolder => buffers.subfolder

/-- Changes the text of the buffer that a target names. -/
def edit (buffers : Buffers) (text : String) : Target → Buffers
  | .filename => { buffers with filename := text }
  | .unnamed => { buffers with filename := text }
  | .destination => { buffers with destination := text }
  | .subfolder => { buffers with subfolder := text }

/-- Takes note that the buffer was written. -/
def mark (buffers : Buffers) : Target → Buffers
  | .filename => buffers
  | .unnamed => buffers
  | .destination => { buffers with destinationWritten := true }
  | .subfolder => { buffers with subfolderWritten := true }

def set (buffers : Buffers) (target : Target) (text : String) : Buffers :=
  (buffers.edit text target).mark target

def add (buffers : Buffers) (target : Target) (text : String) : Buffers :=
  (buffers.edit (buffers.read target ++ text) target).mark target

/-- Replaces within the buffer, which does not count as writing it. -/
def replace (buffers : Buffers) (target : Target) (pattern image : String) : Buffers :=
  buffers.edit (Text.replace (buffers.read target) pattern image) target

end Buffers

/-! ## Passes and their results -/

inductive Pass where
  | filename
  | placement
deriving DecidableEq

/-- Each pass leaves out the statements that write the buffers of the other. -/
def Pass.runs (pass : Pass) (target : Target) : Bool :=
  match pass with
  | filename => !target.isPlacement
  | placement => target.isPlacement

inductive Outcome where
  | completed (buffers : Buffers)
  /-- The script asked to leave the file alone. -/
  | skipped
deriving DecidableEq

inductive PassError where
  | eval (error : EvalError)
  | cancelled (message : String)
deriving DecidableEq

def PassError.message : PassError → String
  | eval error => error.message
  | cancelled message => "cancelled: " ++ message

/-! ## Operands -/

/-- The text of an operand; what goes into the subfolder is part of a path. -/
def Target.operandText (target : Target) (request : Request) (operand : Expr) :
    Except EvalError String :=
  match target with
  | subfolder => operand.evalPath request
  | _ => operand.evalText request

/-- The texts of the operands, one behind the other. -/
def Target.joined (target : Target) (request : Request) : List Expr → Except EvalError String
  | [] => .ok ""
  | operand :: operands => do
    let text ← target.operandText request operand
    return text ++ (← target.joined request operands)

/-- An evaluation as a step of a pass. -/
def ofEval {α : Type} (result : Except EvalError α) : Except PassError α :=
  result.mapError .eval

/-! ## Running -/

mutual

def Statement.run (pass : Pass) (request : Request) (buffers : Buffers) :
    Statement → Except PassError Outcome
  | .choose branches => branches.run pass request buffers
  | .set target parts =>
    if pass.runs target then do
      let text ← ofEval (target.joined request parts)
      return .completed (buffers.set target text)
    else
      .ok (.completed buffers)
  | .add target parts =>
    if pass.runs target then do
      let text ← ofEval (target.joined request parts)
      return .completed (buffers.add target text)
    else
      .ok (.completed buffers)
  | .replace target pattern image =>
    if pass.runs target then do
      let pattern ← ofEval (target.operandText request pattern)
      let image ← ofEval (target.operandText request image)
      return .completed (buffers.replace target pattern image)
    else
      .ok (.completed buffers)
  | .skip => .ok .skipped
  | .cancel parts => do
    let message ← ofEval (Expr.joinedTexts request parts)
    throw (.cancelled message)

/-- Runs the body of the first branch whose condition is true, if there is one. -/
def Branches.run (pass : Pass) (request : Request) (buffers : Buffers) :
    Branches → Except PassError Outcome
  | .done => .ok (.completed buffers)
  | .otherwise body => Statement.runAll pass request buffers body
  | .branch condition body rest => do
    let holds ← ofEval (condition.evalTruth request)
    if holds then
      Statement.runAll pass request buffers body
    else
      rest.run pass request buffers

/-- Runs statements in order, up to the first one that skips. -/
def Statement.runAll (pass : Pass) (request : Request) (buffers : Buffers) :
    List Statement → Except PassError Outcome
  | [] => .ok (.completed buffers)
  | statement :: statements => do
    match ← statement.run pass request buffers with
    | .completed buffers => Statement.runAll pass request buffers statements
    | .skipped => return .skipped

end

def Program.run (program : Program) (pass : Pass) (request : Request) :
    Except PassError Outcome :=
  Statement.runAll pass request {} program.statements

end MediaNaming
