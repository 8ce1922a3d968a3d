import MediaNaming.Proofs.Grammar.Completeness.Statements
import MediaNaming.Proofs.Lexing.Writing
import MediaNaming.Proofs.Printing.Expressions

/-!
# Printing programs

Every program that can be written is printed as a script from which the same program is read, and
nothing else can be read from any script.
-/

namespace MediaNaming

open Grammar MediaNaming.Parser Printing

/-! ## Well-formed programs -/

mutual

/-- Whether the statement can be written: choices have a condition, operand lists an operand. -/
def Statement.wellFormed : Statement → Bool
  | .choose branches => !branches.conditions.isEmpty && branches.wellFormed
  | .set _ parts => !parts.isEmpty && Expr.allWellFormed parts
  | .add _ parts => !parts.isEmpty && Expr.allWellFormed parts
  | .replace _ pattern image => pattern.wellFormed && image.wellFormed
  | .skip => true
  | .cancel parts => Expr.allWellFormed parts

def Branches.wellFormed : Branches → Bool
  | .done => true
  | .otherwise body => bodyWellFormed body
  | .branch condition body rest =>
    condition.wellFormed && bodyWellFormed body && rest.wellFormed

def bodyWellFormed : List Statement → Bool
  | [] => true
  | statement :: statements => statement.wellFormed && bodyWellFormed statements

end

def Program.WellFormed (program : Program) : Prop :=
  bodyWellFormed program.statements = true

instance (program : Program) : Decidable program.WellFormed :=
  inferInstanceAs (Decidable (_ = _))

/-! ## Printing -/

mutual

/-- The tokens that the statement is printed as, without the semicolon that ends it. -/
def Statement.kinds : Statement → List TokenKind
  | .choose branches => branches.kinds [.word "if"]
  | .set target parts => targetKinds target ++ .word "set" :: operandKinds parts
  | .add target parts => targetKinds target ++ .word "add" :: operandKinds parts
  | .replace target pattern image =>
    targetKinds target ++ .word "replace" :: (pattern.kinds .sum ++ image.kinds .sum)
  | .skip => [.word "skip"]
  | .cancel parts => .word "cancel" :: operandKinds parts

/-- The branches with their bodies in braces; the words `lead` stand before the first condition. -/
def Branches.kinds (lead : List TokenKind) : Branches → List TokenKind
  | .done => []
  | .otherwise body =>
    .word "else" :: .punctuation .openBrace :: (bodyKinds body ++ [.punctuation .closeBrace])
  | .branch condition body rest =>
    lead ++ .punctuation .openParen :: (condition.kinds .disjunction ++
      .punctuation .closeParen :: (.punctuation .openBrace ::
        (bodyKinds body ++ [.punctuation .closeBrace]) ++
          rest.kinds [.word "else", .word "if"]))

/-- Statements with a semicolon behind each. -/
def bodyKinds : List Statement → List TokenKind
  | [] => []
  | statement :: statements =>
    statement.kinds ++ .punctuation .semicolon :: bodyKinds statements

end

/-- The script that the program is printed as. -/
def Program.print (program : Program) : String :=
  String.ofList (spellings (bodyKinds program.statements))

namespace Printing

/-! ## What is printed spells the program -/

theorem spells_operandKinds {parts : List Expr} (h : ∀ e ∈ parts, Prints e) :
    Phrase.operands.Spells (operandKinds parts) parts := by
  induction parts with
  | nil => exact .noOperands
  | cons part parts ih =>
    have hpart := h part List.mem_cons_self .sum
    exact .operand hpart (ih fun e he => h e (List.mem_cons_of_mem _ he))

theorem spells_simple {ks : List TokenKind} {statement : Statement} {more : Bool}
    (h : SpellsAction ks statement more) :
    ∃ ending, Clause.statement.Spells ks statement ending := by
  have hspells := Clause.Spells.action 0 h
  rw [semicolons, List.replicate_zero, List.append_nil] at hspells
  exact ⟨_, hspells⟩

/-- Bodies in braces, whose statements are printed with a semicolon behind each. -/
theorem spells_braces {body : List Statement}
    (h : ∀ n closing, (Clause.sequence closing).Spells
      (semicolons n ++ (bodyKinds body ++ closing)) body .closed) :
    Clause.body.Spells
      (.punctuation .openBrace :: (bodyKinds body ++ [.punctuation .closeBrace])) body .closed :=
  .braces (h 0 [.punctuation .closeBrace])

/-- The branches spell a choice behind its first word and spell what follows a closed body. -/
structure PrintsBranches (branches : Branches) : Prop where
  others : ∃ ending,
    (Clause.others .closed).Spells (branches.kinds [.word "else", .word "if"]) branches ending
  first : branches.conditions.isEmpty = false →
    ∃ ending ks, branches.kinds [.word "if"] = .word "if" :: ks ∧
      Clause.branches.Spells ks branches ending

mutual

theorem prints_statement (statement : Statement) (h : statement.wellFormed = true) :
    ∃ ending, Clause.statement.Spells statement.kinds statement ending := by
  cases statement with
  | choose branches =>
    rw [Statement.wellFormed, Bool.and_eq_true, Bool.not_eq_true'] at h
    obtain ⟨ending, ks, hks, hspells⟩ := (prints_branches branches h.2).first h.1
    rw [Statement.kinds, hks]
    exact ⟨ending, .choose hspells⟩
  | set target parts =>
    rw [Statement.wellFormed, Bool.and_eq_true, Bool.not_eq_true'] at h
    have hne : parts ≠ [] := by simpa using h.1
    exact spells_simple (.set target hne (spells_operandKinds (prints_parts parts h.2)))
  | add target parts =>
    rw [Statement.wellFormed, Bool.and_eq_true, Bool.not_eq_true'] at h
    have hne : parts ≠ [] := by simpa using h.1
    exact spells_simple (.add target hne (spells_operandKinds (prints_parts parts h.2)))
  | replace target pattern image =>
    rw [Statement.wellFormed, Bool.and_eq_true] at h
    have hpattern := prints_expr pattern h.1 .sum
    have himage := prints_expr image h.2 .sum
    exact spells_simple (.replace target hpattern himage)
  | skip => exact spells_simple .skip
  | cancel parts => exact spells_simple (.cancel (spells_operandKinds (prints_parts parts h)))

theorem prints_branches (branches : Branches) (h : branches.wellFormed = true) :
    PrintsBranches branches := by
  cases branches with
  | done => exact ⟨⟨_, .done⟩, fun hempty => absurd hempty (by decide)⟩
  | otherwise body =>
    have hbody := spells_braces (prints_body body h)
    refine ⟨⟨.closed, ?_⟩, fun hempty => absurd hempty (by simp [Branches.conditions])⟩
    exact .otherwise rfl (by simp) hbody
  | branch condition body rest =>
    rw [Branches.wellFormed, Bool.and_eq_true, Bool.and_eq_true] at h
    have hcondition := prints_expr condition h.1.1 .disjunction
    have hbody := spells_braces (prints_body body h.1.2)
    obtain ⟨⟨ending, hrest⟩, -⟩ := prints_branches rest h.2
    -- The body is closed by its brace, so an `else` behind it belongs to this choice.
    have hspells := Clause.Spells.branch hcondition hbody hrest
    exact ⟨⟨ending, .otherIf rfl hspells⟩, fun _ => ⟨ending, _, rfl, hspells⟩⟩

/-- Statements are printed up to what closes them; further semicolons before them do no harm. -/
theorem prints_body (body : List Statement) (h : bodyWellFormed body = true) (n : Nat)
    (closing : List TokenKind) :
    (Clause.sequence closing).Spells (semicolons n ++ (bodyKinds body ++ closing)) body
      .closed := by
  cases body with
  | nil => exact .finish n
  | cons statement statements =>
    rw [bodyWellFormed, Bool.and_eq_true] at h
    obtain ⟨ending, hstatement⟩ := prints_statement statement h.1
    have hmore := prints_body statements h.2 1 closing
    rw [bodyKinds, List.append_assoc]
    -- A semicolon follows, so the statement takes in nothing that comes behind.
    have hnext : ∀ k ∈ (semicolons 1 ++ (bodyKinds statements ++ closing)).head?,
        TokenKind.startsOperand k = false := by
      intro k hk
      cases hk
      rfl
    exact .next n (fun _ => hnext) hstatement hmore

end

/-! ## What tokens spell is well formed -/

/-- Whether what a clause stands for can be printed. -/
def ClauseWellFormed : (clause : Clause) → clause.Meaning → Prop
  | .statement, statement => statement.wellFormed = true
  | .branches, branches => branches.conditions.isEmpty = false ∧ branches.wellFormed = true
  | .others _, branches => branches.wellFormed = true
  | .body, body => bodyWellFormed body = true
  | .sequence _, statements => bodyWellFormed statements = true

theorem wellFormed_of_spellsAction {ks : List TokenKind} {statement : Statement} {more : Bool}
    (h : SpellsAction ks statement more) : statement.wellFormed = true := by
  have hlist {parts : List Expr} (hne : parts ≠ [])
      (hparts : Expr.allWellFormed parts = true) :
      (!parts.isEmpty && Expr.allWellFormed parts) = true := by
    rw [List.isEmpty_eq_false_iff.mpr hne, hparts]
    rfl
  cases h with
  | bare target hne hspells => exact hlist hne (wellFormed_of_spells hspells)
  | set target hne hspells => exact hlist hne (wellFormed_of_spells hspells)
  | add target hne hspells => exact hlist hne (wellFormed_of_spells hspells)
  | replace target hpattern himage =>
    exact Bool.and_eq_true_iff.mpr ⟨wellFormed_of_spells hpattern, wellFormed_of_spells himage⟩
  | skip => rfl
  | cancel hspells => exact wellFormed_of_spells hspells

/-- Clauses that tokens spell can be printed. -/
theorem wellFormed_of_clause {clause : Clause} {ks : List TokenKind} {meaning : clause.Meaning}
    {ending : Ending} (h : clause.Spells ks meaning ending) : ClauseWellFormed clause meaning := by
  induction h with
  | action n haction => exact wellFormed_of_spellsAction haction
  | @choose ks branches ending _ ih =>
    obtain ⟨hne, hbranches⟩ := ih
    show (!branches.conditions.isEmpty && branches.wellFormed) = true
    rw [hne, hbranches]
    rfl
  | branch hcondition _ _ ihBody ihRest =>
    have hspelt := wellFormed_of_spells hcondition
    exact ⟨rfl, Bool.and_eq_true_iff.mpr ⟨Bool.and_eq_true_iff.mpr ⟨hspelt, ihBody⟩, ihRest⟩⟩
  | done => rfl
  | otherwise _ _ _ ih => exact ih
  | otherIf _ _ ih => exact ih.2
  | braces _ ih => exact ih
  | single _ ih => exact Bool.and_eq_true_iff.mpr ⟨ih, rfl⟩
  | finish n => rfl
  | next n _ _ _ ih ihMore => exact Bool.and_eq_true_iff.mpr ⟨ih, ihMore⟩

/-! ## Every token of a program can be spelt -/

theorem isSpelt_targetKinds (target : Target) : (targetKinds target).all isSpelt = true := by
  cases target with
  | unnamed => rfl
  | _ =>
    rw [targetKinds, List.all_cons, List.all_nil, Bool.and_true]
    exact isSpelt_reserved (by simp [reserved])

theorem isSpelt_semicolons (n : Nat) : (semicolons n).all isSpelt = true := by
  rw [semicolons, List.all_replicate]
  exact ite_self _

theorem isSpelt_of_spellsAction {ks : List TokenKind} {statement : Statement} {more : Bool}
    (h : SpellsAction ks statement more) : ks.all isSpelt = true := by
  cases h with
  | bare target _ hspells => simp [isSpelt_targetKinds, isSpelt_of_spells hspells]
  | set target _ hspells =>
    have hset : isSpelt (.word "set") = true := isSpelt_reserved (by simp [reserved])
    simp [isSpelt_targetKinds, isSpelt_of_spells hspells, hset]
  | add target _ hspells =>
    have hadd : isSpelt (.word "add") = true := isSpelt_reserved (by simp [reserved])
    simp [isSpelt_targetKinds, isSpelt_of_spells hspells, hadd]
  | replace target hpattern himage =>
    have hreplace : isSpelt (.word "replace") = true := isSpelt_reserved (by simp [reserved])
    simp [isSpelt_targetKinds, isSpelt_of_spells hpattern, isSpelt_of_spells himage, hreplace]
  | skip =>
    have hskip : isSpelt (.word "skip") = true := isSpelt_reserved (by simp [reserved])
    simp [hskip]
  | cancel hspells =>
    have hcancel : isSpelt (.word "cancel") = true := isSpelt_reserved (by simp [reserved])
    simp [isSpelt_of_spells hspells, hcancel]

theorem isSpelt_of_clause {clause : Clause} {ks : List TokenKind} {meaning : clause.Meaning}
    {ending : Ending} (h : clause.Spells ks meaning ending)
    (hclosing : ∀ closing, clause = .sequence closing → closing.all isSpelt = true) :
    ks.all isSpelt = true := by
  have hif : isSpelt (.word "if") = true := isSpelt_reserved (by simp [reserved])
  have helse : isSpelt (.word "else") = true := isSpelt_reserved (by simp [reserved])
  induction h with
  | action n haction => simp [isSpelt_of_spellsAction haction, isSpelt_semicolons]
  | choose _ ih =>
    have hbranches := ih (by simp)
    simp [hif, hbranches]
  | branch hcondition _ _ ihBody ihRest =>
    have hbody := ihBody (by simp)
    have hrest := ihRest (by simp)
    simp [isSpelt, isSpelt_of_spells hcondition, hbody, hrest]
  | done => rfl
  | otherwise _ _ _ ih =>
    have hbody := ih (by simp)
    simp [helse, hbody]
  | otherIf _ _ ih =>
    have hbranches := ih (by simp)
    simp [helse, hif, hbranches]
  | braces _ ih =>
    have hbody := ih (by simp [isSpelt])
    simp [isSpelt, hbody]
  | single _ ih => exact ih (by simp)
  | finish n =>
    have hend := hclosing _ rfl
    simp [isSpelt_semicolons, hend]
  | next n _ _ _ ih ihMore =>
    have hstatement := ih (by simp)
    have hmore := ihMore hclosing
    simp [isSpelt_semicolons, hstatement, hmore]

end Printing

/-! ## Reading what was printed -/

namespace Program

theorem parse_print (program : Program) (h : program.WellFormed) :
    Program.parse program.print = .ok program := by
  have hspells := prints_body program.statements h 0 []
  rw [semicolons, List.replicate_zero, List.nil_append, List.append_nil] at hspells
  -- The tokens that are printed are cut off again, and they spell the program that is read.
  have hspelt := List.all_eq_true.mp (isSpelt_of_clause hspells (by simp))
  obtain ⟨list, hlist, hkinds⟩ := (Lexer.writes_spellings hspelt).tokensFrom .start
  rw [← hkinds] at hspells
  have htokenize : Lexer.tokenize program.print = .ok list := by
    rw [Lexer.tokenize, print, String.toList_ofList]
    exact hlist
  rw [Program.parse, htokenize, ok_bind, statements_of_spells list.stop hspells]
  rfl

theorem wellFormed_of_parse {script : String} {program : Program}
    (h : Program.parse script = .ok program) : program.WellFormed := by
  obtain ⟨list, _, hrest⟩ := bind_eq_ok_iff.mp h
  obtain ⟨statements, hstatements, hreturn⟩ := bind_eq_ok_iff.mp hrest
  cases hreturn
  obtain ⟨ending, hspells⟩ := spells_of_statements list.stop hstatements
  exact wellFormed_of_clause hspells

/--
Reading undoes printing: a program that can be written is read from the script that it is printed
as, and every program that is read from some script can be written and is read from its own script.
-/
theorem parse_undoes_print :
    (∀ program : Program, program.WellFormed → Program.parse program.print = .ok program) ∧
      ∀ (script : String) (program : Program), Program.parse script = .ok program →
        program.WellFormed ∧ Program.parse program.print = .ok program := by
  constructor
  · exact parse_print
  · intro script program h
    have hwellFormed := wellFormed_of_parse h
    exact ⟨hwellFormed, parse_print program hwellFormed⟩

/-- A disjunction under a conjunction keeps its parentheses, and a quote in a text its escape. -/
theorem parse_undoes_print_of_choice :
    ∃ program : Program,
      program.print = "if ( ( true or false ) and not true ) \x7b add 'it\\'s' -1 ; \x7d ; " ∧
        Program.parse program.print = .ok program ∧ program.WellFormed := by
  let condition : Expr := .and (.or (.flag true) (.flag false)) (.not (.flag true))
  let body : List Statement := [.add .unnamed [.text "it's", .number (-1)]]
  refine ⟨⟨[.choose (.branch condition body .done)]⟩, by decide +kernel, ?_⟩
  have hparse := parse_undoes_print.1 ⟨[.choose (.branch condition body .done)]⟩
    (by decide +kernel)
  exact ⟨hparse, (parse_undoes_print.2 _ _ hparse).1⟩

end Program

end MediaNaming
