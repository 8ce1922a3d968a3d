import MediaNaming.Proofs.Placement.Levels
import MediaNaming.Proofs.Renaming.Restriction

/-!
# What a pass writes

A pass that completes has edited the buffers step by step: each edit comes from a statement that the
pass got to. From the edits it can be read off what was written. So a file is moved just when the
script got to a statement that writes where to, and what is only replaced counts for nothing.
-/

namespace MediaNaming

/-! ## Edits -/

/-- What a statement does to a buffer, with the texts that its operands had. -/
inductive Edit where
  | set (target : Target) (text : String)
  | add (target : Target) (text : String)
  | replace (target : Target) (pattern image : String)

namespace Edit

def target : Edit → Target
  | set target _ => target
  | add target _ => target
  | replace target _ _ => target

/-- The target that is written; to replace within a text is not to write it. -/
def written? : Edit → Option Target
  | set target _ => some target
  | add target _ => some target
  | replace _ _ _ => none

def apply (buffers : Buffers) : Edit → Buffers
  | set target text => buffers.set target text
  | add target text => buffers.add target text
  | replace target pattern image => buffers.replace target pattern image

end Edit

theorem written?_eq_some {edit : Edit} {target : Target} (h : edit.written? = some target) :
    edit.target = target := by
  cases edit <;> cases h <;> rfl

/-! ## Edits of a run -/

/-- The edit that a statement makes when it is executed: its operands have these texts. -/
inductive Statement.Edits (request : Request) : Statement → Edit → Prop
  | set {target : Target} {parts : List Expr} {text : String} :
      target.joined request parts = .ok text →
      Statement.Edits request (.set target parts) (.set target text)
  | add {target : Target} {parts : List Expr} {text : String} :
      target.joined request parts = .ok text →
      Statement.Edits request (.add target parts) (.add target text)
  | replace {target : Target} {pattern image : Expr} {found instead : String} :
      target.operandText request pattern = .ok found →
      target.operandText request image = .ok instead →
      Statement.Edits request (.replace target pattern image) (.replace target found instead)

mutual

/-- The edits that a pass makes when it runs a statement to its end, in order. -/
inductive Statement.Makes (pass : Pass) (request : Request) : Statement → List Edit → Prop
  | choose {branches : Branches} {edits : List Edit} :
      Branches.Makes pass request branches edits →
      Statement.Makes pass request (.choose branches) edits
  | executed {statement : Statement} {edit : Edit} :
      pass.runs edit.target = true → statement.Edits request edit →
      Statement.Makes pass request statement [edit]
  | leftOut {statement : Statement} {target : Target} :
      pass.runs target = false → statement.target? = some target →
      Statement.Makes pass request statement []

inductive Branches.Makes (pass : Pass) (request : Request) : Branches → List Edit → Prop
  | done : Branches.Makes pass request .done []
  | otherwise {body : List Statement} {edits : List Edit} :
      Statement.MakeAll pass request body edits →
      Branches.Makes pass request (.otherwise body) edits
  | taken {condition : Expr} {body : List Statement} {rest : Branches} {edits : List Edit} :
      condition.evalTruth request = .ok true → Statement.MakeAll pass request body edits →
      Branches.Makes pass request (.branch condition body rest) edits
  | passed {condition : Expr} {body : List Statement} {rest : Branches} {edits : List Edit} :
      condition.evalTruth request = .ok false → Branches.Makes pass request rest edits →
      Branches.Makes pass request (.branch condition body rest) edits

inductive Statement.MakeAll (pass : Pass) (request : Request) : List Statement → List Edit → Prop
  | nil : Statement.MakeAll pass request [] []
  | cons {statement : Statement} {statements : List Statement} {edits more : List Edit} :
      Statement.Makes pass request statement edits →
      Statement.MakeAll pass request statements more →
      Statement.MakeAll pass request (statement :: statements) (edits ++ more)

end

def Program.Makes (program : Program) (pass : Pass) (request : Request) (edits : List Edit) :
    Prop :=
  Statement.MakeAll pass request program.statements edits

section Runs

variable {pass : Pass} {request : Request}

/-! ### Single statements -/

theorem Statement.Edits.target?_eq {statement : Statement} {edit : Edit}
    (h : statement.Edits request edit) : statement.target? = some edit.target := by
  cases h <;> rfl

/-- A step that evaluates goes on just when the evaluation succeeds. -/
theorem ofEval_bind_eq_ok_iff {α β : Type} {result : Except EvalError α}
    {next : α → Except PassError β} {b : β} :
    ofEval result >>= next = .ok b ↔ ∃ a, result = .ok a ∧ next a = .ok b := by
  simp only [bind_eq_ok_iff, ofEval_eq_ok_iff]

/-- A statement that is executed completes just when its operands can be evaluated. -/
theorem completed_iff_edits {statement : Statement} {target : Target}
    (htarget : statement.target? = some target) (hruns : pass.runs target = true)
    {before after : Buffers} :
    statement.run pass request before = .ok (.completed after) ↔
      ∃ edit, statement.Edits request edit ∧ after = edit.apply before := by
  cases statement with
  | set found parts =>
    cases htarget
    rw [Statement.run, if_pos hruns, ofEval_bind_eq_ok_iff]
    constructor
    · rintro ⟨text, htext, hreturn⟩
      cases hreturn
      exact ⟨_, .set htext, rfl⟩
    · rintro ⟨edit, hedit, rfl⟩
      cases hedit with
      | set htext => exact ⟨_, htext, rfl⟩
  | add found parts =>
    cases htarget
    rw [Statement.run, if_pos hruns, ofEval_bind_eq_ok_iff]
    constructor
    · rintro ⟨text, htext, hreturn⟩
      cases hreturn
      exact ⟨_, .add htext, rfl⟩
    · rintro ⟨edit, hedit, rfl⟩
      cases hedit with
      | add htext => exact ⟨_, htext, rfl⟩
  | replace found pattern image =>
    cases htarget
    rw [Statement.run, if_pos hruns]
    simp only [ofEval_bind_eq_ok_iff]
    constructor
    · rintro ⟨found, hfound, instead, hinstead, hreturn⟩
      cases hreturn
      exact ⟨_, .replace hfound hinstead, rfl⟩
    · rintro ⟨edit, hedit, rfl⟩
      cases hedit with
      | replace hfound hinstead => exact ⟨_, hfound, _, hinstead, rfl⟩
  | _ => cases htarget

theorem completed_iff_of_target? {statement : Statement} {target : Target}
    (htarget : statement.target? = some target) {before after : Buffers} :
    statement.run pass request before = .ok (.completed after) ↔
      ∃ edits, statement.Makes pass request edits ∧ after = edits.foldl Edit.apply before := by
  cases hruns : pass.runs target with
  | true =>
    rw [completed_iff_edits htarget hruns]
    constructor
    · rintro ⟨edit, hedit, rfl⟩
      have heq : target = edit.target := Option.some.inj (htarget.symm.trans hedit.target?_eq)
      exact ⟨[edit], .executed (heq ▸ hruns) hedit, rfl⟩
    · rintro ⟨edits, hmakes, rfl⟩
      cases hmakes with
      | choose => cases htarget
      | executed _ hedit => exact ⟨_, hedit, rfl⟩
      | leftOut hother htarget' =>
        -- The statement has one target, which the pass runs or does not.
        rw [Option.some.inj (htarget.symm.trans htarget'), hother] at hruns
        cases hruns
  | false =>
    rw [run_of_target? request htarget hruns]
    constructor
    · intro h
      cases h
      exact ⟨[], .leftOut hruns htarget, rfl⟩
    · rintro ⟨edits, hmakes, rfl⟩
      cases hmakes with
      | choose => cases htarget
      | executed hother hedit =>
        rw [← Option.some.inj (htarget.symm.trans hedit.target?_eq), hruns] at hother
        cases hother
      | leftOut => rfl

/-- What is neither a choice nor a statement with a target ends the pass. -/
theorem not_makes_of_target?_none {statement : Statement} (htarget : statement.target? = none)
    (hchoose : ∀ branches, statement ≠ .choose branches) {edits : List Edit} :
    ¬ statement.Makes pass request edits := by
  intro h
  cases h with
  | choose => exact hchoose _ rfl
  | executed _ hedit =>
    rw [hedit.target?_eq] at htarget
    cases htarget
  | leftOut _ hsome =>
    rw [hsome] at htarget
    cases htarget

/-! ### Runs -/

-- The recursion is that of the run: each part of a program is left with the edits of the part.
mutual

/-- A run that completes leaves the buffers as its edits do, and nothing else. -/
theorem completed_iff_makes (statement : Statement) {before after : Buffers} :
    statement.run pass request before = .ok (.completed after) ↔
      ∃ edits, statement.Makes pass request edits ∧ after = edits.foldl Edit.apply before := by
  cases statement with
  | choose branches =>
    rw [Statement.run, completed_iff_branches branches]
    constructor
    · rintro ⟨edits, hmakes, rfl⟩
      exact ⟨edits, .choose hmakes, rfl⟩
    · rintro ⟨edits, hmakes, rfl⟩
      cases hmakes with
      | choose hmakes => exact ⟨edits, hmakes, rfl⟩
      | executed _ hedit => cases hedit
      | leftOut _ htarget => cases htarget
  | set target parts => exact completed_iff_of_target? rfl
  | add target parts => exact completed_iff_of_target? rfl
  | replace target pattern image => exact completed_iff_of_target? rfl
  | skip =>
    refine iff_of_false (by simp [Statement.run]) ?_
    rintro ⟨edits, hmakes, -⟩
    exact not_makes_of_target?_none rfl (by simp) hmakes
  | cancel parts =>
    refine iff_of_false (fun h => ?_) ?_
    · obtain ⟨message, -, hthrow⟩ := bind_eq_ok_iff.mp h
      cases hthrow
    · rintro ⟨edits, hmakes, -⟩
      exact not_makes_of_target?_none rfl (by simp) hmakes

theorem completed_iff_branches (branches : Branches) {before after : Buffers} :
    branches.run pass request before = .ok (.completed after) ↔
      ∃ edits, branches.Makes pass request edits ∧ after = edits.foldl Edit.apply before := by
  cases branches with
  | done =>
    rw [Branches.run]
    constructor
    · intro h
      cases h
      exact ⟨[], .done, rfl⟩
    · rintro ⟨edits, hmakes, rfl⟩
      cases hmakes
      rfl
  | otherwise body =>
    rw [Branches.run, completed_iff_makeAll body]
    constructor
    · rintro ⟨edits, hmakes, rfl⟩
      exact ⟨edits, .otherwise hmakes, rfl⟩
    · rintro ⟨edits, hmakes, rfl⟩
      cases hmakes with
      | otherwise hmakes => exact ⟨edits, hmakes, rfl⟩
  | branch condition body rest =>
    rw [Branches.run, ofEval_bind_eq_ok_iff]
    constructor
    · rintro ⟨holds, hcondition, hrun⟩
      cases holds with
      | true =>
        obtain ⟨edits, hmakes, rfl⟩ := (completed_iff_makeAll body).mp hrun
        exact ⟨edits, .taken hcondition hmakes, rfl⟩
      | false =>
        obtain ⟨edits, hmakes, rfl⟩ := (completed_iff_branches rest).mp hrun
        exact ⟨edits, .passed hcondition hmakes, rfl⟩
    · rintro ⟨edits, hmakes, rfl⟩
      cases hmakes with
      | taken hcondition hmakes =>
        exact ⟨true, hcondition, (completed_iff_makeAll body).mpr ⟨edits, hmakes, rfl⟩⟩
      | passed hcondition hmakes =>
        exact ⟨false, hcondition, (completed_iff_branches rest).mpr ⟨edits, hmakes, rfl⟩⟩

theorem completed_iff_makeAll (statements : List Statement) {before after : Buffers} :
    Statement.runAll pass request before statements = .ok (.completed after) ↔
      ∃ edits, Statement.MakeAll pass request statements edits ∧
        after = edits.foldl Edit.apply before := by
  cases statements with
  | nil =>
    rw [Statement.runAll]
    constructor
    · intro h
      cases h
      exact ⟨[], .nil, rfl⟩
    · rintro ⟨edits, hmakes, rfl⟩
      cases hmakes
      rfl
  | cons statement statements =>
    rw [Statement.runAll, bind_eq_ok_iff]
    constructor
    · rintro ⟨outcome, hfirst, hrest⟩
      cases outcome with
      | completed between =>
        obtain ⟨edits, hedits, rfl⟩ := (completed_iff_makes statement).mp hfirst
        obtain ⟨more, hmore, rfl⟩ := (completed_iff_makeAll statements).mp hrest
        exact ⟨edits ++ more, .cons hedits hmore, List.foldl_append.symm⟩
      | skipped => cases hrest
    · rintro ⟨_, hmakes, rfl⟩
      cases hmakes with
      | cons hedits hmore =>
        refine ⟨_, (completed_iff_makes statement).mpr ⟨_, hedits, rfl⟩, ?_⟩
        exact (completed_iff_makeAll statements).mpr ⟨_, hmore, List.foldl_append⟩

end

/-! ### Targets of the edits -/

mutual

/-- A pass edits no buffer of the other one. -/
theorem runs_of_makes (statement : Statement) {edits : List Edit}
    (h : statement.Makes pass request edits) :
    ∀ edit ∈ edits, pass.runs edit.target = true := by
  cases h with
  | @choose branches _ hmakes => exact runs_of_branches branches hmakes
  | executed hruns _ => simpa using hruns
  | leftOut _ _ => simp

theorem runs_of_branches (branches : Branches) {edits : List Edit}
    (h : branches.Makes pass request edits) :
    ∀ edit ∈ edits, pass.runs edit.target = true := by
  cases h with
  | done => simp
  | @otherwise body _ hmakes => exact runs_of_makeAll body hmakes
  | @taken _ body _ _ _ hmakes => exact runs_of_makeAll body hmakes
  | @passed _ _ rest _ _ hmakes => exact runs_of_branches rest hmakes

theorem runs_of_makeAll (statements : List Statement) {edits : List Edit}
    (h : Statement.MakeAll pass request statements edits) :
    ∀ edit ∈ edits, pass.runs edit.target = true := by
  cases h with
  | nil => simp
  | @cons statement statements _ _ hedits hmore =>
    exact List.forall_mem_append.mpr
      ⟨runs_of_makes statement hedits, runs_of_makeAll statements hmore⟩

end

end Runs

/-! ## What edits leave behind -/

/-- Whether the buffers take note that a target was written; they do not for the filename. -/
def Buffers.isWritten (buffers : Buffers) : Target → Bool
  | .destination => buffers.destinationWritten
  | .subfolder => buffers.subfolderWritten
  | _ => false

section Steps

variable {target : Target}

/-! ### Single changes -/

@[simp] theorem isWritten_edit (buffers : Buffers) (text : String) (changed : Target) :
    (buffers.edit text changed).isWritten target = buffers.isWritten target := by
  cases changed <;> cases target <;> rfl

theorem isWritten_mark (htarget : target.isPlacement = true) (buffers : Buffers)
    (changed : Target) :
    (buffers.mark changed).isWritten target =
      (buffers.isWritten target || some changed == some target) := by
  cases target with
  | destination => cases changed <;> simp [Buffers.mark, Buffers.isWritten]
  | subfolder => cases changed <;> simp [Buffers.mark, Buffers.isWritten]
  | _ => cases htarget

@[simp] theorem read_mark (buffers : Buffers) (changed : Target) :
    (buffers.mark changed).read target = buffers.read target := by
  cases changed <;> cases target <;> rfl

@[simp] theorem read_edit_self (buffers : Buffers) (text : String) :
    (buffers.edit text target).read target = text := by
  cases target <;> rfl

theorem read_edit_of_ne (htarget : target.isPlacement = true) {changed : Target}
    (hne : changed ≠ target) (buffers : Buffers) (text : String) :
    (buffers.edit text changed).read target = buffers.read target := by
  cases target with
  | destination => cases changed <;> first | rfl | exact absurd rfl hne
  | subfolder => cases changed <;> first | rfl | exact absurd rfl hne
  | _ => cases htarget

theorem replace_empty (pattern image : String) : Text.replace "" pattern image = "" := by
  unfold Text.replace
  split <;> rfl

/-! ### Single edits -/

theorem isWritten_apply (htarget : target.isPlacement = true) (buffers : Buffers) (edit : Edit) :
    (edit.apply buffers).isWritten target =
      (buffers.isWritten target || edit.written? == some target) := by
  cases edit with
  | set changed text =>
    simp [Edit.apply, Edit.written?, Buffers.set, isWritten_mark htarget]
  | add changed text =>
    simp [Edit.apply, Edit.written?, Buffers.add, isWritten_mark htarget]
  | replace changed pattern image =>
    simp [Edit.apply, Edit.written?, Buffers.replace]

/-- Only writing fills a buffer: to replace within an empty one leaves it empty. -/
theorem read_apply_of_unwritten (htarget : target.isPlacement = true) {buffers : Buffers}
    {edit : Edit} (hempty : buffers.read target = "") (hunwritten : edit.written? ≠ some target) :
    (edit.apply buffers).read target = "" := by
  cases edit with
  | set changed text =>
    have hne : changed ≠ target := fun h => hunwritten (congrArg some h)
    simp [Edit.apply, Buffers.set, read_edit_of_ne htarget hne, hempty]
  | add changed text =>
    have hne : changed ≠ target := fun h => hunwritten (congrArg some h)
    simp [Edit.apply, Buffers.add, read_edit_of_ne htarget hne, hempty]
  | replace changed pattern image =>
    by_cases hchanged : changed = target
    · subst hchanged
      simp [Edit.apply, Buffers.replace, hempty, replace_empty]
    · simp [Edit.apply, Buffers.replace, read_edit_of_ne htarget hchanged, hempty]

theorem filename_apply {edit : Edit} (h : edit.target.isPlacement = true) (buffers : Buffers) :
    (edit.apply buffers).filename = buffers.filename := by
  obtain ⟨changed, _⟩ | ⟨changed, _⟩ | ⟨changed, _, _⟩ := edit <;> cases changed <;>
    first | rfl | cases h

/-! ### All edits -/

variable {edits : List Edit}

theorem isWritten_foldl (htarget : target.isPlacement = true) (buffers : Buffers) :
    (edits.foldl Edit.apply buffers).isWritten target = true ↔
      buffers.isWritten target = true ∨ ∃ edit ∈ edits, edit.written? = some target := by
  induction edits generalizing buffers with
  | nil => simp
  | cons edit edits ih =>
    rw [List.foldl_cons, ih, isWritten_apply htarget]
    simp [or_assoc]

theorem read_foldl_of_unwritten (htarget : target.isPlacement = true) {buffers : Buffers}
    (hempty : buffers.read target = "") (hunwritten : ∀ edit ∈ edits, edit.written? ≠ some target) :
    (edits.foldl Edit.apply buffers).read target = "" := by
  induction edits generalizing buffers with
  | nil => exact hempty
  | cons edit edits ih =>
    -- What carries the induction is that the buffer is still empty behind the first edit.
    obtain ⟨hfirst, hrest⟩ := List.forall_mem_cons.mp hunwritten
    exact ih (read_apply_of_unwritten htarget hempty hfirst) hrest

theorem filename_foldl (h : ∀ edit ∈ edits, edit.target.isPlacement = true) (buffers : Buffers) :
    (edits.foldl Edit.apply buffers).filename = buffers.filename := by
  induction edits generalizing buffers with
  | nil => rfl
  | cons edit edits ih =>
    obtain ⟨hfirst, hrest⟩ := List.forall_mem_cons.mp h
    exact (ih hrest _).trans (filename_apply hfirst buffers)

end Steps

/-! ## Asking for a move -/

/-- The buffers for the place of a file go by what was written, and are empty until something is. -/
structure Buffers.Accounts (buffers : Buffers) (edits : List Edit) : Prop where
  written_iff : ∀ target : Target, target.isPlacement = true →
    (buffers.isWritten target = true ↔ ∃ edit ∈ edits, edit.written? = some target)
  empty : ∀ target : Target, target.isPlacement = true → buffers.isWritten target = false →
    buffers.read target = ""

theorem accounts_foldl (edits : List Edit) :
    Buffers.Accounts (edits.foldl Edit.apply {}) edits := by
  have hstart : ∀ target : Target, Buffers.isWritten {} target = false := by
    intro target
    cases target <;> rfl
  have hwritten : ∀ target : Target, target.isPlacement = true →
      ((edits.foldl Edit.apply {}).isWritten target = true ↔
        ∃ edit ∈ edits, edit.written? = some target) := by
    intro target htarget
    simpa [hstart] using isWritten_foldl htarget {}
  refine ⟨hwritten, fun target htarget hunwritten => ?_⟩
  -- An edit that wrote the target would show, as nothing takes that note back.
  refine read_foldl_of_unwritten htarget (by cases target <;> rfl) fun edit hedit heq => ?_
  rw [(hwritten target htarget).mpr ⟨edit, hedit, heq⟩] at hunwritten
  cases hunwritten

namespace Buffers.Accounts

variable {buffers : Buffers} {edits : List Edit} {target : Target}

theorem unwritten_iff (h : buffers.Accounts edits) (htarget : target.isPlacement = true) :
    buffers.isWritten target = false ↔ ∀ edit ∈ edits, edit.written? ≠ some target := by
  rw [Bool.eq_false_iff, Ne, h.written_iff target htarget]
  simp

/-- The text of the destination asks for a folder only if it was written. -/
theorem asksNothing_iff (h : buffers.Accounts edits) :
    buffers.asksNothing = true ↔
      ∀ edit ∈ edits, edit.written? ≠ some .destination ∧ edit.written? ≠ some .subfolder := by
  have hwritten : buffers.asksNothing = true ↔
      buffers.isWritten .destination = false ∧ buffers.isWritten .subfolder = false := by
    constructor
    · intro hasks
      simp only [Buffers.asksNothing, Bool.and_eq_true, Bool.not_eq_true'] at hasks
      exact ⟨hasks.1.2, hasks.2⟩
    · rintro ⟨hdestination, hsubfolder⟩
      have hempty : buffers.destination = "" := h.empty .destination rfl hdestination
      have htrim : Text.trim buffers.destination = "" := by
        rw [hempty]
        decide +kernel
      simp only [Buffers.isWritten] at hdestination hsubfolder
      simp [Buffers.asksNothing, htrim, hdestination, hsubfolder]
  rw [hwritten, h.unwritten_iff rfl, h.unwritten_iff rfl]
  exact ⟨fun h edit hedit => ⟨h.1 edit hedit, h.2 edit hedit⟩,
    fun h => ⟨fun edit hedit => (h edit hedit).1, fun edit hedit => (h edit hedit).2⟩⟩

end Buffers.Accounts

/-- A pass that completes did the edits of the statements that it got to. -/
theorem Program.completed_iff_makes {program : Program} {pass : Pass} {request : Request}
    {buffers : Buffers} :
    program.run pass request = .ok (.completed buffers) ↔
      ∃ edits, program.Makes pass request edits ∧ buffers = edits.foldl Edit.apply {} :=
  completed_iff_makeAll program.statements

/-- There is one way through a program that completes, as far as the buffers show. -/
theorem Program.eq_foldl_of_makes {program : Program} {pass : Pass} {request : Request}
    {buffers : Buffers} {edits : List Edit}
    (hrun : program.run pass request = .ok (.completed buffers))
    (hmakes : program.Makes pass request edits) : buffers = edits.foldl Edit.apply {} := by
  have hrun' := Program.completed_iff_makes.mpr ⟨edits, hmakes, rfl⟩
  rw [hrun] at hrun'
  cases hrun'
  rfl

/--
Something moves only if the script asked for it. The pass for the filename leaves the place alone.
The pass for the place leaves the filename alone; a buffer counts as written just when the pass got
to a statement that sets it or adds to it, and is empty until then. So, whatever the folders are,
the file stays where it is just when no such statement was executed.
-/
theorem moves_only_if_asked (program : Program) (request : Request) (buffers : Buffers) :
    (program.run .filename request = .ok (.completed buffers) →
      buffers.destination = "" ∧ buffers.subfolder = "" ∧
        buffers.destinationWritten = false ∧ buffers.subfolderWritten = false) ∧
    (program.run .placement request = .ok (.completed buffers) →
      (∃ edits, program.Makes .placement request edits) ∧
      ∀ edits, program.Makes .placement request edits →
        buffers = edits.foldl Edit.apply {} ∧
        buffers.filename = "" ∧
        (buffers.destinationWritten = true ↔
          ∃ edit ∈ edits, edit.written? = some .destination) ∧
        (buffers.subfolderWritten = true ↔ ∃ edit ∈ edits, edit.written? = some .subfolder) ∧
        (buffers.destinationWritten = false → buffers.destination = "") ∧
        (buffers.subfolderWritten = false → buffers.subfolder = "") ∧
        ∀ folders path policy, Placement.resolve buffers folders path policy = .ok none ↔
          ∀ edit ∈ edits,
            edit.written? ≠ some .destination ∧ edit.written? ≠ some .subfolder) := by
  constructor
  · intro hrun
    obtain ⟨edits, hmakes, rfl⟩ := Program.completed_iff_makes.mp hrun
    have haccounts := accounts_foldl edits
    -- What the pass writes are names, so no place is among the targets.
    have hunwritten : ∀ target : Target, target.isPlacement = true →
        (edits.foldl Edit.apply {}).isWritten target = false := by
      intro target htarget
      refine (haccounts.unwritten_iff htarget).mpr fun edit hedit hwritten => ?_
      have hruns := runs_of_makeAll program.statements hmakes edit hedit
      rw [written?_eq_some hwritten, Pass.runs, htarget] at hruns
      cases hruns
    have hdestination := hunwritten .destination rfl
    have hsubfolder := hunwritten .subfolder rfl
    exact ⟨haccounts.empty .destination rfl hdestination,
      haccounts.empty .subfolder rfl hsubfolder, hdestination, hsubfolder⟩
  · intro hrun
    refine ⟨(Program.completed_iff_makes.mp hrun).imp fun _ h => h.1, fun edits hmakes => ?_⟩
    obtain rfl := Program.eq_foldl_of_makes hrun hmakes
    have haccounts := accounts_foldl edits
    have hruns := runs_of_makeAll program.statements hmakes
    exact ⟨rfl, filename_foldl hruns {}, haccounts.written_iff .destination rfl,
      haccounts.written_iff .subfolder rfl, haccounts.empty .destination rfl,
      haccounts.empty .subfolder rfl,
      fun _ _ _ => Placement.resolve_eq_none_iff.trans haccounts.asksNothing_iff⟩

/-- The destination is only replaced, so that the folder stays and the subfolder alone is new. -/
theorem moves_only_if_asked_of_replace :
    let program : Program := ⟨[
      .choose (.branch (.flag false) [.set .destination [.text "Library"]]
        (.otherwise [.replace .destination (.text "a") (.text "b")])),
      .add .filename [.text "x"],
      .add .subfolder [.text "S"]]⟩
    let request : Request := { file := { id := 1, path := "/a" }, anime := [], episodes := [] }
    let buffers : Buffers := { subfolder := "S", subfolderWritten := true }
    (program.run .filename request = .ok (.completed { filename := "x" }) ∧
      ({ filename := "x" } : Buffers).subfolderWritten = false) ∧
    (program.run .placement request = .ok (.completed buffers) ∧
      (∃ edits, program.Makes .placement request edits) ∧
      program.Makes .placement request [.replace .destination "a" "b", .add .subfolder "S"] ∧
      ∀ folders path policy, Placement.resolve buffers folders path policy ≠ .ok none) := by
  intro program request buffers
  have hname : program.run .filename request = .ok (.completed { filename := "x" }) := by
    decide +kernel
  have hplace : program.run .placement request = .ok (.completed buffers) := by decide +kernel
  have hmakes : program.Makes .placement request
      [.replace .destination "a" "b", .add .subfolder "S"] :=
    .cons (.choose (.passed rfl (.otherwise (.cons (.executed rfl (.replace rfl rfl)) .nil))))
      (.cons (.leftOut rfl rfl) (.cons (.executed rfl (.add rfl)) .nil))
  obtain ⟨hsome, hall⟩ := (moves_only_if_asked program request buffers).2 hplace
  obtain ⟨-, -, -, -, -, -, hmoves⟩ := hall _ hmakes
  have hplaceless := (moves_only_if_asked program request _).1 hname
  refine ⟨⟨hname, hplaceless.2.2.2⟩, hplace, hsome, hmakes, ?_⟩
  intro folders path policy hstays
  have hadd := (hmoves folders path policy).mp hstays (.add .subfolder "S") (by simp)
  exact hadd.2 rfl

end MediaNaming
