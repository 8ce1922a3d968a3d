import MediaNaming.Proofs.Grammar.Expressions

/-!
# The grammar of statements

Which tokens spell which statements. A statement whose end is open would take in more if more stood
behind it: an operand list takes any operand that follows, and an `if` without an `else` takes the
next `else`. The grammar keeps track of open ends and lets nothing follow that would be taken in,
so that tokens spell one script at most.
-/

namespace MediaNaming.Grammar

open MediaNaming.Parser

/-! ## Simple statements -/

/-- The token that names a target; none for the target without a name. -/
def targetKinds : Target → List TokenKind
  | .filename => [.word "filename"]
  | .destination => [.word "destination"]
  | .subfolder => [.word "subfolder"]
  | .unnamed => []

/--
The tokens of these kinds spell a statement that holds no other one. The flag says whether an
operand behind it would belong to it.
-/
inductive SpellsAction : List TokenKind → Statement → Bool → Prop
  | bare (target : Target) {ks : List TokenKind} {parts : List Expr} (hparts : parts ≠ []) :
      Phrase.operands.Spells ks parts →
      SpellsAction (targetKinds target ++ ks) (.add target parts) true
  | set (target : Target) {ks : List TokenKind} {parts : List Expr} (hparts : parts ≠ []) :
      Phrase.operands.Spells ks parts →
      SpellsAction (targetKinds target ++ .word "set" :: ks) (.set target parts) true
  | add (target : Target) {ks : List TokenKind} {parts : List Expr} (hparts : parts ≠ []) :
      Phrase.operands.Spells ks parts →
      SpellsAction (targetKinds target ++ .word "add" :: ks) (.add target parts) true
  | replace (target : Target) {ks js : List TokenKind} {pattern image : Expr} :
      (Phrase.expr .sum).Spells ks pattern → (Phrase.expr .sum).Spells js image →
      SpellsAction (targetKinds target ++ .word "replace" :: (ks ++ js))
        (.replace target pattern image) false
  | skip : SpellsAction [.word "skip"] .skip false
  | cancel {ks : List TokenKind} {parts : List Expr} :
      Phrase.operands.Spells ks parts →
      SpellsAction (.word "cancel" :: ks) (.cancel parts) true

/-! ## Clauses -/

/-- What would be taken in by a clause if it stood behind it. -/
structure Ending where
  operand : Bool
  otherwise : Bool

/-- The ending of a clause that is closed. -/
def Ending.closed : Ending := ⟨false, false⟩

/-- The kinds of clauses that scripts are made of. -/
inductive Clause where
  | statement
  | branches
  /-- The branches behind a body with an ending. -/
  | others (before : Ending)
  | body
  /-- Statements up to the closing tokens: a brace, or none at the end of the script. -/
  | sequence (closing : List TokenKind)

/-- What a clause stands for. -/
abbrev Clause.Meaning : Clause → Type
  | statement => Statement
  | branches => Branches
  | others _ => Branches
  | body => List Statement
  | sequence _ => List Statement

/-- As many semicolons in a row. -/
def semicolons (n : Nat) : List TokenKind :=
  List.replicate n (.punctuation .semicolon)

/-- The tokens of these kinds spell a clause of this meaning, which ends in this way. -/
inductive Clause.Spells : (clause : Clause) → List TokenKind → clause.Meaning → Ending → Prop
  | action {ks : List TokenKind} {statement : Statement} {more : Bool} (n : Nat) :
      SpellsAction ks statement more →
      Spells .statement (ks ++ semicolons n) statement ⟨more && n == 0, false⟩
  | choose {ks : List TokenKind} {branches : Branches} {ending : Ending} :
      Spells .branches ks branches ending →
      Spells .statement (.word "if" :: ks) (.choose branches) ending
  | branch {ks js is : List TokenKind} {condition : Expr} {body : List Statement}
      {rest : Branches} {inner ending : Ending} :
      (Phrase.expr .disjunction).Spells ks condition → Spells .body js body inner →
      Spells (.others inner) is rest ending →
      Spells .branches
        (.punctuation .openParen :: (ks ++ .punctuation .closeParen :: (js ++ is)))
        (.branch condition body rest) ending
  | done {before : Ending} : Spells (.others before) [] .done { before with otherwise := true }
  | otherwise {ks : List TokenKind} {body : List Statement} {before ending : Ending}
      (hbefore : before.otherwise = false) (hif : ks.head? ≠ some (.word "if")) :
      Spells .body ks body ending →
      Spells (.others before) (.word "else" :: ks) (.otherwise body) ending
  | otherIf {ks : List TokenKind} {branches : Branches} {before ending : Ending}
      (hbefore : before.otherwise = false) :
      Spells .branches ks branches ending →
      Spells (.others before) (.word "else" :: .word "if" :: ks) branches ending
  | braces {ks : List TokenKind} {body : List Statement} {ending : Ending} :
      Spells (.sequence [.punctuation .closeBrace]) ks body ending →
      Spells .body (.punctuation .openBrace :: ks) body .closed
  | single {ks : List TokenKind} {statement : Statement} {ending : Ending} :
      Spells .statement ks statement ending → Spells .body ks [statement] ending
  | finish {closing : List TokenKind} (n : Nat) :
      Spells (.sequence closing) (semicolons n ++ closing) [] .closed
  | next {ks js closing : List TokenKind} {statement : Statement} {statements : List Statement}
      {ending last : Ending} (n : Nat)
      (hnext : ending.operand = true → ∀ k ∈ js.head?, TokenKind.startsOperand k = false) :
      Spells .statement ks statement ending → Spells (.sequence closing) js statements last →
      Spells (.sequence closing) (semicolons n ++ (ks ++ js)) (statement :: statements) .closed

/-! ## How statements start -/

/-- The reserved words that a statement can start with. -/
def statementWords : List String := [
  "if", "set", "add", "replace", "skip", "cancel", "filename", "destination", "subfolder"]

/-- Whether a statement can start with the token. -/
def startsStatement : TokenKind → Bool
  | .word name => statementWords.contains name || !reserved.contains name
  | k => TokenKind.startsOperand k

theorem startsStatement_of_startsOperand {k : TokenKind} (h : TokenKind.startsOperand k = true) :
    startsStatement k = true := by
  cases k with
  | word name =>
    rw [TokenKind.startsOperand] at h
    rw [startsStatement, h, Bool.or_true]
  | _ => exact h

theorem startsOperand_of_operands {ks : List TokenKind} {parts : List Expr}
    (h : Phrase.operands.Spells ks parts) (hparts : parts ≠ []) :
    ∃ k js, ks = k :: js ∧ TokenKind.startsOperand k = true := by
  cases h with
  | noOperands => exact absurd rfl hparts
  | operand hpart _ =>
    obtain ⟨k, js, rfl, hk⟩ := hpart.startsOperand rfl
    exact ⟨k, _, rfl, hk⟩

/-- Behind the name of a target, if there is one, a statement goes on as it could start. -/
theorem startsStatement_behind_target (target : Target) {k : TokenKind} {js : List TokenKind}
    (hk : startsStatement k = true) :
    ∃ k' js', targetKinds target ++ k :: js = k' :: js' ∧ startsStatement k' = true := by
  cases target with
  | unnamed => exact ⟨k, js, rfl, hk⟩
  | _ => exact ⟨_, _, rfl, by decide⟩

theorem SpellsAction.startsStatement {ks : List TokenKind} {statement : Statement} {more : Bool}
    (h : SpellsAction ks statement more) :
    ∃ k js, ks = k :: js ∧ startsStatement k = true := by
  cases h with
  | bare target hparts hspells =>
    obtain ⟨k, js, rfl, hk⟩ := startsOperand_of_operands hspells hparts
    exact startsStatement_behind_target target (startsStatement_of_startsOperand hk)
  | set target => exact startsStatement_behind_target target (by decide)
  | add target => exact startsStatement_behind_target target (by decide)
  | replace target => exact startsStatement_behind_target target (by decide)
  | skip => exact ⟨_, _, rfl, by decide⟩
  | cancel => exact ⟨_, _, rfl, by decide⟩

theorem Clause.Spells.startsStatement {ks : List TokenKind} {statement : Statement}
    {ending : Ending} (h : Clause.statement.Spells ks statement ending) :
    ∃ k js, ks = k :: js ∧ startsStatement k = true := by
  cases h with
  | action n haction =>
    obtain ⟨k, js, rfl, hk⟩ := haction.startsStatement
    exact ⟨k, _, rfl, hk⟩
  | choose => exact ⟨_, _, rfl, by decide⟩

end MediaNaming.Grammar
