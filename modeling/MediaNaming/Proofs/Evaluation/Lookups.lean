import MediaNaming.Script.Pass

/-!
# What programs look up

The labels of a program, and whether it lists episodes, are all that it asks a request for. Two
requests that give the same answers make no difference to it: its expressions have the same values
and its passes end the same, with the same errors and messages.
-/

namespace MediaNaming

/-! ## Lookups -/

/-- What an expression asks a request for. -/
inductive Lookup where
  | label (label : Label)
  /-- The ranges of the file's episodes. -/
  | episodes
deriving DecidableEq

mutual

/-- What an expression looks up, in order; some of it only if the evaluation gets there. -/
def Expr.lookups : Expr → List Lookup
  | .flag _ => []
  | .text _ => []
  | .number _ => []
  | .label l => [.label l]
  | .not operand => operand.lookups
  | .and left right => left.lookups ++ right.lookups
  | .or left right => left.lookups ++ right.lookups
  | .compare _ left right => left.lookups ++ right.lookups
  | .concat parts => Expr.lookupsAll parts
  | .first collection => collection.lookups
  | .rest text start => text.lookups ++ start.lookups
  | .substr text start len => text.lookups ++ (start.lookups ++ len.lookups)
  | .trunc text len => text.lookups ++ len.lookups
  | .convert _ text => text.lookups
  | .pad value width => value.lookups ++ width.lookups
  | .episodes width => .episodes :: width.lookups
  | .len operand => operand.lookups
  | .has source filters => source.lookups ++ Filter.lookupsAll filters

def Expr.lookupsAll : List Expr → List Lookup
  | [] => []
  | part :: parts => part.lookups ++ Expr.lookupsAll parts

def Filter.lookups : Filter → List Lookup
  | .language _ => []
  | .titleKind _ => []
  | .text wanted => wanted.lookups

def Filter.lookupsAll : List Filter → List Lookup
  | [] => []
  | filter :: filters => filter.lookups ++ Filter.lookupsAll filters

end

mutual

/-- What a statement, and those within it, look up. -/
def Statement.lookups : Statement → List Lookup
  | .choose branches => branches.lookups
  | .set _ parts => Expr.lookupsAll parts
  | .add _ parts => Expr.lookupsAll parts
  | .replace _ pattern image => pattern.lookups ++ image.lookups
  | .skip => []
  | .cancel parts => Expr.lookupsAll parts

def Branches.lookups : Branches → List Lookup
  | .done => []
  | .otherwise body => Statement.lookupsAll body
  | .branch condition body rest =>
    condition.lookups ++ (Statement.lookupsAll body ++ rest.lookups)

def Statement.lookupsAll : List Statement → List Lookup
  | [] => []
  | statement :: statements => statement.lookups ++ Statement.lookupsAll statements

end

def Program.lookups (program : Program) : List Lookup :=
  Statement.lookupsAll program.statements

/-! ## Requests that agree -/

/-- Two requests give the same answer. -/
def Lookup.SameIn (left right : Request) : Lookup → Prop
  | label l => left.value l = right.value l
  | episodes => ∀ width, left.episodesText width = right.episodesText width

def Request.AgreeOn (lookups : List Lookup) (left right : Request) : Prop :=
  ∀ lookup ∈ lookups, lookup.SameIn left right

namespace Request.AgreeOn

variable {first more : List Lookup} {left right : Request}

theorem append_left (h : AgreeOn (first ++ more) left right) : AgreeOn first left right :=
  fun lookup hlookup => h lookup (List.mem_append_left _ hlookup)

theorem append_right (h : AgreeOn (first ++ more) left right) : AgreeOn more left right :=
  fun lookup hlookup => h lookup (List.mem_append_right _ hlookup)

end Request.AgreeOn

section Agreement

variable {left right : Request}

/-! ## Values -/

mutual

/-- An expression has the same value, or fails the same, where its lookups have the same answers. -/
theorem eval_agree (expr : Expr) (h : Request.AgreeOn expr.lookups left right) :
    expr.eval left = expr.eval right := by
  cases expr with
  | flag value => rfl
  | text value => rfl
  | number value => rfl
  | label l =>
    unfold Expr.eval
    exact congrArg Except.ok (h (.label l) List.mem_cons_self)
  | not operand =>
    unfold Expr.eval
    rw [eval_agree operand h]
  | and a b =>
    unfold Expr.eval
    rw [eval_agree a h.append_left, eval_agree b h.append_right]
  | or a b =>
    unfold Expr.eval
    rw [eval_agree a h.append_left, eval_agree b h.append_right]
  | compare comparison a b =>
    unfold Expr.eval
    rw [eval_agree a h.append_left, eval_agree b h.append_right]
  | concat parts =>
    unfold Expr.eval
    rw [joinedTexts_agree parts h]
  | first collection =>
    unfold Expr.eval
    rw [eval_agree collection h]
  | rest text start =>
    unfold Expr.eval
    rw [eval_agree text h.append_left, eval_agree start h.append_right]
  | substr text start len =>
    unfold Expr.eval
    rw [eval_agree text h.append_left, eval_agree start h.append_right.append_left,
      eval_agree len h.append_right.append_right]
  | trunc text len =>
    unfold Expr.eval
    rw [eval_agree text h.append_left, eval_agree len h.append_right]
  | convert conversion text =>
    unfold Expr.eval
    rw [eval_agree text h]
  | pad value width =>
    unfold Expr.eval
    rw [eval_agree value h.append_left, eval_agree width h.append_right]
  | episodes width =>
    have hepisodes : ∀ columns, left.episodesText columns = right.episodesText columns :=
      h .episodes List.mem_cons_self
    have hwidth : Request.AgreeOn width.lookups left right :=
      fun lookup hlookup => h lookup (List.mem_cons_of_mem _ hlookup)
    unfold Expr.eval
    rw [eval_agree width hwidth]
    simp only [hepisodes]
  | len operand =>
    unfold Expr.eval
    rw [eval_agree operand h]
  | has source filters =>
    unfold Expr.eval
    have hfilters : ∀ items, Filter.applyAll left source items filters =
        Filter.applyAll right source items filters :=
      fun items => applyAll_agree source filters h.append_right items
    rw [eval_agree source h.append_left]
    simp only [hfilters]

theorem joinedTexts_agree (parts : List Expr)
    (h : Request.AgreeOn (Expr.lookupsAll parts) left right) :
    Expr.joinedTexts left parts = Expr.joinedTexts right parts := by
  cases parts with
  | nil => rfl
  | cons part parts =>
    unfold Expr.joinedTexts
    rw [eval_agree part h.append_left, joinedTexts_agree parts h.append_right]

theorem apply_agree (source : Expr) (filter : Filter)
    (h : Request.AgreeOn filter.lookups left right) (items : Collection) :
    filter.apply left source items = filter.apply right source items := by
  cases filter with
  | language l => rfl
  | titleKind kind => rfl
  | text wanted =>
    unfold Filter.apply
    rw [eval_agree wanted h]

/-- What is left of a collection before a filter is the same, so the filters are too. -/
theorem applyAll_agree (source : Expr) (filters : List Filter)
    (h : Request.AgreeOn (Filter.lookupsAll filters) left right) (items : Collection) :
    Filter.applyAll left source items filters = Filter.applyAll right source items filters := by
  cases filters with
  | nil => rfl
  | cons filter filters =>
    have hrest : ∀ kept, Filter.applyAll left source kept filters =
        Filter.applyAll right source kept filters :=
      fun kept => applyAll_agree source filters h.append_right kept
    unfold Filter.applyAll
    rw [apply_agree source filter h.append_left items]
    simp only [hrest]

end

/-! ## Operands -/

theorem evalText_agree {expr : Expr} (h : Request.AgreeOn expr.lookups left right) :
    expr.evalText left = expr.evalText right := by
  unfold Expr.evalText
  rw [eval_agree expr h]

theorem evalTruth_agree {expr : Expr} (h : Request.AgreeOn expr.lookups left right) :
    expr.evalTruth left = expr.evalTruth right := by
  unfold Expr.evalTruth
  rw [eval_agree expr h]

mutual

theorem evalPath_agree (expr : Expr) (h : Request.AgreeOn expr.lookups left right) :
    expr.evalPath left = expr.evalPath right := by
  cases expr with
  | text value => rfl
  | concat parts => exact joinedPaths_agree parts h
  | _ =>
    unfold Expr.evalPath
    rw [evalText_agree h]

theorem joinedPaths_agree (parts : List Expr)
    (h : Request.AgreeOn (Expr.lookupsAll parts) left right) :
    Expr.joinedPaths left parts = Expr.joinedPaths right parts := by
  cases parts with
  | nil => rfl
  | cons part parts =>
    unfold Expr.joinedPaths
    rw [evalPath_agree part h.append_left, joinedPaths_agree parts h.append_right]

end

theorem operandText_agree (target : Target) {operand : Expr}
    (h : Request.AgreeOn operand.lookups left right) :
    target.operandText left operand = target.operandText right operand := by
  cases target with
  | subfolder => exact evalPath_agree operand h
  | _ => exact evalText_agree h

theorem joined_agree (target : Target) (operands : List Expr)
    (h : Request.AgreeOn (Expr.lookupsAll operands) left right) :
    target.joined left operands = target.joined right operands := by
  induction operands with
  | nil => rfl
  | cons operand operands ih =>
    unfold Target.joined
    rw [operandText_agree target h.append_left, ih h.append_right]

/-! ## Passes -/

variable (pass : Pass)

mutual

theorem run_agree (statement : Statement) (h : Request.AgreeOn statement.lookups left right)
    (buffers : Buffers) : statement.run pass left buffers = statement.run pass right buffers := by
  cases statement with
  | choose branches =>
    unfold Statement.run
    exact branches_agree branches h buffers
  | set target parts =>
    unfold Statement.run
    rw [joined_agree target parts h]
  | add target parts =>
    unfold Statement.run
    rw [joined_agree target parts h]
  | replace target pattern image =>
    unfold Statement.run
    rw [operandText_agree target h.append_left, operandText_agree target h.append_right]
  | skip => rfl
  | cancel parts =>
    unfold Statement.run
    rw [joinedTexts_agree parts h]

theorem branches_agree (branches : Branches) (h : Request.AgreeOn branches.lookups left right)
    (buffers : Buffers) : branches.run pass left buffers = branches.run pass right buffers := by
  cases branches with
  | done => rfl
  | otherwise body =>
    unfold Branches.run
    exact runAll_agree body h buffers
  | branch condition body rest =>
    unfold Branches.run
    rw [evalTruth_agree h.append_left, runAll_agree body h.append_right.append_left buffers,
      branches_agree rest h.append_right.append_right buffers]

theorem runAll_agree (statements : List Statement)
    (h : Request.AgreeOn (Statement.lookupsAll statements) left right) (buffers : Buffers) :
    Statement.runAll pass left buffers statements =
      Statement.runAll pass right buffers statements := by
  cases statements with
  | nil => rfl
  | cons statement statements =>
    have hrest : ∀ between, Statement.runAll pass left between statements =
        Statement.runAll pass right between statements :=
      fun between => runAll_agree statements h.append_right between
    unfold Statement.runAll
    rw [run_agree statement h.append_left buffers]
    simp only [hrest]

end

/-- A pass ends the same for requests that agree on all that the program looks up. -/
theorem program_agree (program : Program) (h : Request.AgreeOn program.lookups left right) :
    program.run pass left = program.run pass right :=
  runAll_agree pass program.statements h {}

end Agreement

end MediaNaming
