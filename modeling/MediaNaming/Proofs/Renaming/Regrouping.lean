import MediaNaming.Proofs.Evaluation.Leaves
import MediaNaming.Script.Pass

/-!
# Writing in other portions

What a statement writes is joined from the leaves of its operands. So it does not matter whether
texts are joined by `+` or stand side by side as operands, nor whether one statement writes them all
or a first one writes some and a second one adds the others.
-/

namespace MediaNaming

/-! ## Other portions -/

/-- One concatenation among operands is taken apart: its parts stand there side by side. -/
inductive Expr.Unjoins : List Expr → List Expr → Prop
  | here (before parts after : List Expr) :
      Expr.Unjoins (before ++ .concat parts :: after) (before ++ parts ++ after)
  /-- It stands within another concatenation, which then has more parts. -/
  | within (before after : List Expr) {parts others : List Expr} :
      Expr.Unjoins parts others →
      Expr.Unjoins (before ++ .concat parts :: after) (before ++ .concat others :: after)

/-- A statement is written as others that have its operands in other portions. -/
inductive Statement.Regroups : Statement → List Statement → Prop
  | set (target : Target) {parts others : List Expr} :
      Expr.Unjoins parts others →
      Statement.Regroups (.set target parts) [.set target others]
  | add (target : Target) {parts others : List Expr} :
      Expr.Unjoins parts others →
      Statement.Regroups (.add target parts) [.add target others]
  | cancel {parts others : List Expr} :
      Expr.Unjoins parts others →
      Statement.Regroups (.cancel parts) [.cancel others]
  /-- All operands but the first one are added by a statement of their own. -/
  | setFirst (target : Target) (part : Expr) (parts : List Expr) :
      Statement.Regroups (.set target (part :: parts)) [.set target [part], .add target parts]
  | addFirst (target : Target) (part : Expr) (parts : List Expr) :
      Statement.Regroups (.add target (part :: parts)) [.add target [part], .add target parts]

mutual

/-- One statement of a block, or of a body at any depth within it, is written as others. -/
inductive Statement.RegroupsIn : List Statement → List Statement → Prop
  | here {statement : Statement} {others : List Statement} (after : List Statement) :
      statement.Regroups others →
      Statement.RegroupsIn (statement :: after) (others ++ after)
  | within {branches others : Branches} (after : List Statement) :
      Branches.RegroupsIn branches others →
      Statement.RegroupsIn (.choose branches :: after) (.choose others :: after)
  | later (statement : Statement) {statements others : List Statement} :
      Statement.RegroupsIn statements others →
      Statement.RegroupsIn (statement :: statements) (statement :: others)

inductive Branches.RegroupsIn : Branches → Branches → Prop
  | otherwise {body others : List Statement} :
      Statement.RegroupsIn body others →
      Branches.RegroupsIn (.otherwise body) (.otherwise others)
  | body (condition : Expr) {body others : List Statement} (rest : Branches) :
      Statement.RegroupsIn body others →
      Branches.RegroupsIn (.branch condition body rest) (.branch condition others rest)
  | rest (condition : Expr) (body : List Statement) {rest others : Branches} :
      Branches.RegroupsIn rest others →
      Branches.RegroupsIn (.branch condition body rest) (.branch condition body others)

end

def Program.Regroups (program other : Program) : Prop :=
  Statement.RegroupsIn program.statements other.statements

/-! ## Joined operands -/

section Operands

variable {request : Request}

theorem Expr.Unjoins.leavesAll_eq {parts others : List Expr} (h : Expr.Unjoins parts others) :
    Expr.leavesAll parts = Expr.leavesAll others := by
  induction h with
  | here before parts after =>
    rw [Expr.leavesAll_append, Expr.leavesAll, Expr.leaves, Expr.leavesAll_append,
      Expr.leavesAll_append, List.append_assoc]
  | within before after _ ih =>
    rw [Expr.leavesAll_append, Expr.leavesAll_append, Expr.leavesAll, Expr.leavesAll, Expr.leaves,
      Expr.leaves, ih]

/-- A reading that joins does not tell a concatenation from its parts. -/
theorem Expr.Unjoins.joinWith_eq {reading : Expr → Except EvalError String}
    (hreading : Expr.Joins reading) {parts others : List Expr} (h : Expr.Unjoins parts others) :
    Expr.joinWith reading parts = Expr.joinWith reading others := by
  rw [← hreading.joinWith_leavesAll parts, h.leavesAll_eq, hreading.joinWith_leavesAll]

theorem joined_eq_joinWith (target : Target) (request : Request) (operands : List Expr) :
    target.joined request operands = Expr.joinWith (target.operandText request) operands := by
  induction operands with
  | nil => rfl
  | cons operand operands ih => rw [Target.joined, Expr.joinWith_cons, ih]

theorem joins_operandText (target : Target) (request : Request) :
    Expr.Joins (target.operandText request) := by
  cases target with
  | subfolder => exact Expr.joins_evalPath request
  | _ => exact Expr.joins_evalText request

theorem joined_unjoins {parts others : List Expr} (h : Expr.Unjoins parts others)
    (target : Target) : target.joined request parts = target.joined request others := by
  rw [joined_eq_joinWith, joined_eq_joinWith, h.joinWith_eq (joins_operandText target request)]

theorem joinedTexts_unjoins {parts others : List Expr} (h : Expr.Unjoins parts others) :
    Expr.joinedTexts request parts = Expr.joinedTexts request others := by
  rw [Expr.joinedTexts_eq_joinWith, Expr.joinedTexts_eq_joinWith,
    h.joinWith_eq (Expr.joins_evalText request)]

/-- Literals that stand side by side in a subfolder bring in their own markers and no others. -/
theorem joined_literals (request : Request) (literals : List String) :
    Target.subfolder.joined request (literals.map .text) =
      .ok (String.join (literals.map Marker.markLiteral)) := by
  induction literals with
  | nil => rfl
  | cons literal literals ih =>
    rw [List.map_cons, Target.joined, ih, List.map_cons, String.join_cons]
    rfl

end Operands

/-! ## Statements that write -/

section Writing

variable {pass : Pass} {request : Request} {target : Target}

/-- The statement writes what its operands join to, in a pass that writes to its target. -/
def Statement.Writes (target : Target) (write : Buffers → String → Buffers)
    (statement : List Expr → Statement) : Prop :=
  ∀ pass request buffers parts, (statement parts).run pass request buffers =
    if pass.runs target then do
      let text ← ofEval (target.joined request parts)
      return .completed (write buffers text)
    else
      .ok (.completed buffers)

theorem writes_set (target : Target) :
    Statement.Writes target (fun buffers => buffers.set target) (.set target) := by
  intro pass request buffers parts
  rw [Statement.run]

theorem writes_add (target : Target) :
    Statement.Writes target (fun buffers => buffers.add target) (.add target) := by
  intro pass request buffers parts
  rw [Statement.run]

theorem add_set (buffers : Buffers) (target : Target) (text more : String) :
    (buffers.set target text).add target more = buffers.set target (text ++ more) := by
  cases target <;> rfl

theorem add_add (buffers : Buffers) (target : Target) (text more : String) :
    (buffers.add target text).add target more = buffers.add target (text ++ more) := by
  cases target <;> simp [Buffers.add, Buffers.edit, Buffers.read, Buffers.mark, String.append_assoc]

theorem runAll_singleton (statement : Statement) (buffers : Buffers) :
    Statement.runAll pass request buffers [statement] = statement.run pass request buffers := by
  rw [Statement.runAll]
  cases statement.run pass request buffers with
  | error error => rfl
  | ok outcome => cases outcome <;> rfl

/-- What follows on a block runs on the buffers that the block leaves, unless it skips. -/
theorem runAll_append (left right : List Statement) (buffers : Buffers) :
    Statement.runAll pass request buffers (left ++ right) = do
      match ← Statement.runAll pass request buffers left with
      | .completed buffers => Statement.runAll pass request buffers right
      | .skipped => return .skipped := by
  induction left generalizing buffers with
  | nil => rfl
  | cons statement left ih =>
    rw [List.cons_append, Statement.runAll, Statement.runAll]
    cases statement.run pass request buffers with
    | error error => rfl
    | ok outcome =>
      cases outcome with
      | completed between => exact ih between
      | skipped => rfl

/-- Writing the first operand and adding the others comes to writing all of them at once. -/
theorem runAll_first {write : Buffers → String → Buffers} {statement : List Expr → Statement}
    (hwrites : Statement.Writes target write statement)
    (hadd : ∀ buffers text more,
      (write buffers text).add target more = write buffers (text ++ more))
    (part : Expr) (parts : List Expr) (buffers : Buffers) :
    Statement.runAll pass request buffers [statement [part], .add target parts] =
      (statement (part :: parts)).run pass request buffers := by
  have hadded : ∀ between, Statement.runAll pass request between [.add target parts] = _ :=
    fun between => (runAll_singleton _ between).trans (writes_add target pass request between parts)
  rw [Statement.runAll, hwrites, hwrites]
  simp only [hadded]
  cases pass.runs target with
  | false => rfl
  | true =>
    rw [if_pos rfl, if_pos rfl, Target.joined, Target.joined, Target.joined]
    cases target.operandText request part with
    | error error => rfl
    | ok text =>
      cases target.joined request parts with
      | error error => rfl
      | ok more =>
        have hwrite : (write buffers (text ++ "")).add target more =
            write buffers (text ++ more) := by rw [String.append_empty, hadd]
        exact congrArg (fun after => Except.ok (Outcome.completed after)) hwrite

theorem run_unjoins {write : Buffers → String → Buffers} {statement : List Expr → Statement}
    (hwrites : Statement.Writes target write statement) {parts others : List Expr}
    (h : Expr.Unjoins parts others) (buffers : Buffers) :
    (statement parts).run pass request buffers = (statement others).run pass request buffers := by
  rw [hwrites, hwrites, joined_unjoins h]

theorem run_cancel_unjoins {parts others : List Expr} (h : Expr.Unjoins parts others)
    (buffers : Buffers) :
    (Statement.cancel parts).run pass request buffers =
      (Statement.cancel others).run pass request buffers := by
  rw [Statement.run, Statement.run, joinedTexts_unjoins h]

/-- One statement ends as those do that it is written as, whatever the buffers hold. -/
theorem run_regroups {statement : Statement} {others : List Statement}
    (h : statement.Regroups others) (buffers : Buffers) :
    Statement.runAll pass request buffers others = statement.run pass request buffers := by
  cases h with
  | set target hparts => rw [runAll_singleton, run_unjoins (writes_set target) hparts]
  | add target hparts => rw [runAll_singleton, run_unjoins (writes_add target) hparts]
  | cancel hparts => rw [runAll_singleton, run_cancel_unjoins hparts]
  | setFirst target part parts =>
    exact runAll_first (writes_set target) (fun buffers => add_set buffers target) part parts
      buffers
  | addFirst target part parts =>
    exact runAll_first (writes_add target) (fun buffers => add_add buffers target) part parts
      buffers

/-! ## Programs -/

mutual

/-- A block ends alike in other portions, whichever of its statements they are of. -/
theorem runAll_regroupsIn {statements others : List Statement}
    (h : Statement.RegroupsIn statements others) (buffers : Buffers) :
    Statement.runAll pass request buffers statements =
      Statement.runAll pass request buffers others := by
  cases h with
  | @here statement others after hstatement =>
    have hfirst : Statement.runAll pass request buffers others =
        Statement.runAll pass request buffers [statement] :=
      (run_regroups hstatement buffers).trans (runAll_singleton statement buffers).symm
    calc Statement.runAll pass request buffers (statement :: after)
      _ = Statement.runAll pass request buffers ([statement] ++ after) := rfl
      _ = Statement.runAll pass request buffers (others ++ after) := by
        rw [runAll_append, runAll_append, hfirst]
  | within after hbranches =>
    rw [Statement.runAll, Statement.runAll, Statement.run, Statement.run,
      branches_regroupsIn hbranches buffers]
  | later statement hrest =>
    -- The statement before leaves some buffers, so the rest has to end alike from all of them.
    rw [Statement.runAll, Statement.runAll]
    simp only [runAll_regroupsIn hrest]

theorem branches_regroupsIn {branches others : Branches}
    (h : Branches.RegroupsIn branches others) (buffers : Buffers) :
    branches.run pass request buffers = others.run pass request buffers := by
  cases h with
  | otherwise hbody =>
    rw [Branches.run, Branches.run, runAll_regroupsIn hbody buffers]
  | body condition rest hbody =>
    rw [Branches.run, Branches.run, runAll_regroupsIn hbody buffers]
  | rest condition body hrest =>
    rw [Branches.run, Branches.run, branches_regroupsIn hrest buffers]

end

end Writing

/--
A program ends alike in both passes, with the same buffers, error or message, if an operand of one
of its statements that is a concatenation is replaced by the parts, or if one of its statements
writes the first operand alone and a second one, right behind it, adds the others. So the literals
of a subfolder bring in the same markers within a concatenation as side by side.
-/
theorem portions_make_no_difference (program other : Program) (h : program.Regroups other)
    (request : Request) (pass : Pass) :
    program.run pass request = other.run pass request ∧
      ∀ literals : List String,
        Target.subfolder.joined request [.concat (literals.map .text)] =
            .ok (String.join (literals.map Marker.markLiteral)) ∧
          Target.subfolder.joined request (literals.map .text) =
            .ok (String.join (literals.map Marker.markLiteral)) := by
  refine ⟨runAll_regroupsIn h {}, fun literals => ?_⟩
  have hsplit : Expr.Unjoins [.concat (literals.map .text)] (literals.map .text) := by
    simpa using Expr.Unjoins.here [] (literals.map .text) []
  exact ⟨(joined_unjoins hsplit .subfolder).trans (joined_literals request literals),
    joined_literals request literals⟩

/--
A concatenation in the last branch of a choice is taken apart, and then the literal is set alone and
what stood behind it is added.
-/
theorem portions_make_no_difference_of_choice :
    let title : Expr := .label (.text .animeTitlePreferred)
    let program (body : List Statement) : Program := ⟨[
      .add .unnamed [title],
      .choose (.branch (.flag false) [.skip] (.otherwise body)),
      .add .subfolder [.text "/*"]]⟩
    let joined := program [.set .subfolder [.concat [.text "Shows/", .concat [title, .text "x"]]]]
    let apart := program [.set .subfolder [.text "Shows/", .concat [title, .text "x"]]]
    let added := program [
      .set .subfolder [.text "Shows/"],
      .add .subfolder [.concat [title, .text "x"]]]
    let request : Request := {
      file := { id := 1, path := "" }
      anime := [{ id := 1, preferredTitle := "A/B", kind := .movie }]
      episodes := [] }
    let subfolder := "Shows\uE000A/Bx\uE000\uE001"
    joined.Regroups apart ∧ apart.Regroups added ∧
      joined.run .placement request = apart.run .placement request ∧
      apart.run .placement request = added.run .placement request ∧
      added.run .placement request =
        .ok (.completed { subfolder, subfolderWritten := true }) := by
  intro title program joined apart added request subfolder
  have hjoined : joined.Regroups apart :=
    .later _ (.within _ (.rest _ _ (.otherwise (.here [] (.set _ (.here [] [_, _] []))))))
  have hapart : apart.Regroups added :=
    .later _ (.within _ (.rest _ _ (.otherwise (.here [] (.setFirst _ _ _)))))
  refine ⟨hjoined, hapart, ?_, ?_, by decide +kernel⟩
  · exact (portions_make_no_difference joined apart hjoined request .placement).1
  · exact (portions_make_no_difference apart added hapart request .placement).1

end MediaNaming
