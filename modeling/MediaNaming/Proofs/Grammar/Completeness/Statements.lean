import MediaNaming.Proofs.Grammar.Completeness.Expressions
import MediaNaming.Proofs.Grammar.Soundness

/-!
# Spelt scripts are read

The parser reads every statement that its tokens spell, as long as what stands behind could not be
taken in as well. Nothing stands behind a whole script, so every script that its tokens spell is
read.
-/

namespace MediaNaming.Grammar

open MediaNaming.Parser

variable (stop : Position)

/-! ## Simple statements -/

section Simple

variable {stop : Position} {ks : List TokenKind} {tokens rest : List Token}

theorem gives_operand {e : Expr} (h : (Phrase.expr .sum).Spells ks e)
    (hspans : Spans ks tokens rest) (hrest : StopsSum rest) :
    Gives (operand stop tokens) e rest := by
  obtain ⟨hlt, heq⟩ : Gives (sum stop tokens) e rest := h.reads stop hspans hrest
  obtain ⟨k, js, rfl, hk⟩ := h.startsOperand rfl
  obtain ⟨token, middle, rfl, rfl, -⟩ := hspans.uncons
  have hstarts : startsOperand (token :: middle) = true := hk
  refine ⟨hlt, ?_⟩
  rw [operand, if_pos hstarts]
  exact heq

theorem gives_operands {parts : List Expr} (h : Phrase.operands.Spells ks parts)
    (hparts : parts ≠ []) (hspans : Spans ks tokens rest) (hrest : StopsSum rest)
    (hoperand : startsOperand rest = false) : Gives (operands stop tokens) parts rest := by
  cases h with
  | noOperands => exact absurd rfl hparts
  | @operand ks js part parts hpart hmore =>
    obtain ⟨middle, hspansPart, hspansMore⟩ := hspans.split
    obtain ⟨hltPart, heqPart⟩ : Gives (operand stop tokens) part middle :=
      gives_operand hpart hspansPart (stops_before_operands hmore hspansMore hrest)
    obtain ⟨hlt, heq⟩ := hmore.reads stop hspansMore hrest hoperand tokens hltPart
    refine ⟨hlt, ?_⟩
    rw [operands, heqPart, ok_bind]
    dsimp only
    rw [heq]
    rfl

theorem verb?_verbName (verb : Verb) : verb? (.word (verbName verb)) = some verb := by
  cases verb <;> rfl

/-- No operand starts with a token that has a place of its own in statements. -/
theorem not_startsOperand_of_reserved {name : String} {token : Token}
    (hkind : token.kind = .word name) (hreserved : reserved.contains name = true) :
    startsOperand (token :: rest) = false := by
  show TokenKind.startsOperand token.kind = false
  rw [hkind, TokenKind.startsOperand, hreserved]
  rfl

/-- Behind the name of a target, the statement is read as one about that target. -/
theorem gives_of_targeted {target : Target} {statement : Statement} {token : Token}
    (htarget : target? token.kind = some target)
    (h : Gives (targeted stop target tokens) statement rest) :
    Gives (simpleStatement stop (token :: tokens)) statement rest := by
  have hoperand : startsOperand (token :: tokens) = false := by
    unfold target? at htarget
    split at htarget
    case h_4 => cases htarget
    all_goals next hkind => exact not_startsOperand_of_reserved hkind rfl
  obtain ⟨hlt, heq⟩ := h
  refine ⟨Nat.lt_succ_of_lt hlt, ?_⟩
  rw [simpleStatement, hoperand, if_neg (by simp), take?_cons_of_eq_some htarget]
  dsimp only
  rw [heq]
  rfl

/-- Behind a verb, whether a target is named before it or not, an action is read. -/
theorem gives_of_action {target : Target} {verb : Verb} {statement : Statement}
    {behind : List Token}
    (hspans : Spans (targetKinds target ++ [.word (verbName verb)]) tokens behind)
    (h : Gives (action stop target verb behind) statement rest) :
    Gives (simpleStatement stop tokens) statement rest := by
  obtain ⟨middle, htarget, hverb⟩ := hspans.split
  obtain ⟨word, tail, rfl, hkind, htail⟩ := hverb.uncons
  cases htail.eq_of_nil
  have htake : verb? word.kind = some verb := by rw [hkind]; exact verb?_verbName verb
  obtain ⟨hlt, heq⟩ := h
  have htargeted : Gives (targeted stop target (word :: behind)) statement rest := by
    refine ⟨Nat.lt_succ_of_lt hlt, ?_⟩
    rw [targeted, take?_cons_of_eq_some htake]
    dsimp only
    rw [heq]
    rfl
  -- Without a name for the target the verb comes first, and no operand starts with a verb.
  cases target with
  | unnamed =>
    cases htarget.eq_of_nil
    have hoperand : startsOperand (word :: behind) = false :=
      not_startsOperand_of_reserved hkind (by cases verb <;> rfl)
    have hnone : target? word.kind = none := by rw [hkind]; cases verb <;> rfl
    refine ⟨Nat.lt_succ_of_lt hlt, ?_⟩
    rw [simpleStatement, hoperand, if_neg (by simp), take?_cons_of_eq_none hnone,
      take?_cons_of_eq_some htake]
    dsimp only
    rw [heq]
    rfl
  | _ =>
    obtain ⟨token, tail, rfl, hname, hword⟩ := htarget.uncons
    cases hword.eq_of_nil
    exact gives_of_targeted (by rw [hname]; rfl) htargeted

/-- Operands without a verb are added to the target. -/
theorem gives_of_operands {target : Target} {parts : List Expr} {behind : List Token}
    (hspans : Spans (targetKinds target) tokens behind) (hstarts : startsOperand behind = true)
    (h : Gives (operands stop behind) parts rest) :
    Gives (simpleStatement stop tokens) (.add target parts) rest := by
  obtain ⟨hlt, heq⟩ := h
  cases target with
  | unnamed =>
    cases hspans.eq_of_nil
    refine ⟨hlt, ?_⟩
    rw [simpleStatement, if_pos hstarts, heq]
    rfl
  | _ =>
    obtain ⟨token, tail, rfl, hname, hbehind⟩ := hspans.uncons
    cases hbehind.eq_of_nil
    refine gives_of_targeted (by rw [hname]; rfl) ⟨hlt, ?_⟩
    have hverb : take? verb? behind = none := by
      cases behind with
      | nil => rfl
      | cons word tail =>
        refine take?_cons_of_eq_none ?_
        unfold verb?
        split
        case h_4 => rfl
        all_goals
          next hkind =>
            rw [not_startsOperand_of_reserved hkind rfl] at hstarts
            cases hstarts
    rw [targeted, hverb]
    dsimp only
    rw [if_pos hstarts, heq]
    rfl

section Actions

variable {target : Target} {token : Token} {behind : List Token}

theorem gives_replace {middle : List Token} {pattern image : Expr}
    (hpattern : Gives (operand stop tokens) pattern middle)
    (himage : Gives (operand stop middle) image rest) :
    Gives (action stop target .replace tokens) (.replace target pattern image) rest := by
  obtain ⟨hltPattern, heqPattern⟩ := hpattern
  obtain ⟨hlt, heq⟩ := himage
  refine ⟨Nat.lt_trans hlt hltPattern, ?_⟩
  rw [action, heqPattern, ok_bind]
  dsimp only
  rw [heq]
  rfl

theorem gives_skip (hk : token.kind = .word "skip") :
    Gives (simpleStatement stop (token :: rest)) .skip rest := by
  refine ⟨Nat.lt_succ_self _, ?_⟩
  rw [simpleStatement, not_startsOperand_of_reserved hk rfl, if_neg (by simp),
    take?_cons_of_eq_none (by rw [hk]; rfl), take?_cons_of_eq_none (by rw [hk]; rfl)]
  dsimp only
  rw [takeOf?_cons_of_mem (by simp [hk])]
  rfl

theorem gives_cancel {parts : List Expr} (hk : token.kind = .word "cancel")
    (h : Gives (moreOperands stop (token :: behind) behind (Nat.lt_succ_self _)) parts rest) :
    Gives (simpleStatement stop (token :: behind)) (.cancel parts) rest := by
  obtain ⟨hlt, heq⟩ := h
  refine ⟨hlt, ?_⟩
  rw [simpleStatement, not_startsOperand_of_reserved hk rfl, if_neg (by simp),
    take?_cons_of_eq_none (by rw [hk]; rfl), take?_cons_of_eq_none (by rw [hk]; rfl)]
  dsimp only
  rw [takeOf?_cons_of_not_mem (by simp [hk]), takeOf?_cons_of_mem (by simp [hk])]
  dsimp only
  rw [heq]
  rfl

end Actions

/-- Every statement that holds no other one is read from the tokens that spell it. -/
theorem SpellsAction.gives {statement : Statement} {more : Bool}
    (h : SpellsAction ks statement more) (hspans : Spans ks tokens rest) (hrest : StopsSum rest)
    (hoperand : more = true → startsOperand rest = false) :
    Gives (simpleStatement stop tokens) statement rest := by
  cases h with
  | bare target hparts hspells =>
    obtain ⟨behind, htarget, hbehind⟩ := hspans.split
    refine gives_of_operands htarget ?_
      (gives_operands hspells hparts hbehind hrest (hoperand rfl))
    obtain ⟨k, js, rfl, hk⟩ := startsOperand_of_operands hspells hparts
    obtain ⟨token, middle, rfl, rfl, -⟩ := hbehind.uncons
    exact hk
  | @set target ks parts hparts hspells =>
    rw [List.append_cons] at hspans
    obtain ⟨behind, hverb, hbehind⟩ := hspans.split
    have haction : Gives (action stop target .set behind) (.set target parts) rest :=
      (gives_operands hspells hparts hbehind hrest (hoperand rfl)).map (Statement.set target)
    exact gives_of_action hverb haction
  | @add target ks parts hparts hspells =>
    rw [List.append_cons] at hspans
    obtain ⟨behind, hverb, hbehind⟩ := hspans.split
    have haction : Gives (action stop target .add behind) (.add target parts) rest :=
      (gives_operands hspells hparts hbehind hrest (hoperand rfl)).map (Statement.add target)
    exact gives_of_action hverb haction
  | replace target hpattern himage =>
    rw [List.append_cons] at hspans
    obtain ⟨behind, hverb, hbehind⟩ := hspans.split
    obtain ⟨middle, hspansPattern, hspansImage⟩ := hbehind.split
    have hstops := stops_before_operand himage hspansImage
    exact gives_of_action hverb (gives_replace (gives_operand hpattern hspansPattern hstops)
      (gives_operand himage hspansImage hrest))
  | skip =>
    obtain ⟨token, tail, rfl, hkind, hbehind⟩ := hspans.uncons
    cases hbehind.eq_of_nil
    exact gives_skip hkind
  | cancel hspells =>
    obtain ⟨token, behind, rfl, hkind, hbehind⟩ := hspans.uncons
    exact gives_cancel hkind (hspells.reads stop hbehind hrest (hoperand rfl) _ _)

end Simple

/-! ## Semicolons -/

section Semicolons

variable {tokens rest : List Token}

theorem skipSemicolons_of_spans {n : Nat} (h : Spans (semicolons n) tokens rest) :
    skipSemicolons tokens = skipSemicolons rest := by
  induction n generalizing tokens with
  | zero => rw [h.eq_of_nil]
  | succ n ih =>
    obtain ⟨token, middle, rfl, hkind, hmiddle⟩ := h.uncons
    rw [skipSemicolons, List.dropWhile_cons_of_pos (by simp [hkind])]
    exact ih hmiddle

theorem skipSemicolons_cons {token : Token} (h : token.kind ≠ .punctuation .semicolon) :
    skipSemicolons (token :: rest) = token :: rest :=
  List.dropWhile_cons_of_neg (by simpa using h)

theorem skipSemicolons_skipSemicolons (tokens : List Token) :
    skipSemicolons (skipSemicolons tokens) = skipSemicolons tokens := by
  obtain ⟨n, hspans⟩ := spans_skipSemicolons tokens
  exact (skipSemicolons_of_spans hspans).symm

end Semicolons

/-! ## What follows a clause -/

/-- A clause with this ending takes in nothing of `rest` but semicolons. -/
structure Ending.Stops (ending : Ending) (rest : List Token) : Prop where
  sum : StopsSum rest
  operand : ending.operand = true → startsOperand rest = false
  otherwise : ending.otherwise = true → takeOf? [.word "else"] (skipSemicolons rest) = none

/-- Whether a script can go on with the token, or a block can end with it, behind a statement. -/
def goesOn (k : TokenKind) : Bool :=
  startsStatement k || k == .punctuation .closeBrace

theorem goesOn_ne_semicolon {k : TokenKind} (h : goesOn k = true) :
    k ≠ .punctuation .semicolon := by
  rintro rfl
  exact absurd h (by decide)

/-- Behind any semicolons, a script goes on with a statement or ends, or a block ends. -/
def GoesOn (tokens : List Token) : Prop :=
  ∀ token ∈ (skipSemicolons tokens).head?, goesOn token.kind = true

namespace GoesOn

variable {tokens : List Token}

theorem stopsSum (h : GoesOn tokens) : StopsSum tokens := by
  cases tokens with
  | nil => exact stops_nil.toStopsSum
  | cons token rest =>
    -- A semicolon, the start of a statement or a closing brace: none of them is an operator.
    have hoperator : isOperator token.kind = false := by
      by_cases hkind : token.kind = .punctuation .semicolon
      · rw [hkind]
        decide
      · have hgoes := h token (by rw [skipSemicolons_cons hkind]; rfl)
        rw [goesOn, Bool.or_eq_true] at hgoes
        rcases hgoes with hstarts | hclosing
        · exact isOperator_of_startsStatement hstarts
        · rw [beq_iff_eq.mp hclosing]
          decide
    exact (stops_cons hoperator).toStopsSum

theorem not_otherwise (h : GoesOn tokens) :
    takeOf? [.word "else"] (skipSemicolons tokens) = none := by
  cases hskip : skipSemicolons tokens with
  | nil => rfl
  | cons token rest =>
    have hgoes := h token (by rw [hskip]; rfl)
    refine takeOf?_cons_of_not_mem fun hmem => ?_
    rw [List.mem_singleton.mp hmem] at hgoes
    exact absurd hgoes (by decide)

end GoesOn

/-- What is left behind a statement in a sequence is the rest of the sequence. -/
theorem goesOn_of_sequence {closing ks : List TokenKind} {statements : List Statement}
    {ending : Ending} {tokens rest : List Token}
    (h : (Clause.sequence closing).Spells ks statements ending) (hspans : Spans ks tokens rest)
    (hclosing : closing = [.punctuation .closeBrace] ∨ closing = [] ∧ rest = []) :
    GoesOn tokens := by
  intro token hhead
  cases h with
  | finish n =>
    obtain ⟨middle, hsemicolons, hmiddle⟩ := hspans.split
    rw [skipSemicolons_of_spans hsemicolons] at hhead
    rcases hclosing with rfl | ⟨rfl, rfl⟩
    · obtain ⟨brace, behind, rfl, hkind, -⟩ := hmiddle.uncons
      rw [skipSemicolons_cons (by rw [hkind]; decide)] at hhead
      cases hhead
      rw [hkind]
      rfl
    · cases hmiddle.eq_of_nil
      cases hhead
  | next n _ hstatement _ =>
    obtain ⟨middle, hsemicolons, hmiddle⟩ := hspans.split
    rw [skipSemicolons_of_spans hsemicolons] at hhead
    obtain ⟨k, js, rfl, hk⟩ := hstatement.startsStatement
    obtain ⟨first, behind, rfl, rfl, -⟩ := hmiddle.uncons
    have hgoes : goesOn first.kind = true := by rw [goesOn, hk, Bool.true_or]
    rw [skipSemicolons_cons (goesOn_ne_semicolon hgoes)] at hhead
    cases hhead
    exact hgoes

theorem Clause.Spells.sequence_ne_nil {closing ks : List TokenKind} {statements : List Statement}
    {ending : Ending} (h : (Clause.sequence closing).Spells ks statements ending)
    (hclosing : closing ≠ []) : ks ≠ [] := by
  cases h with
  | finish n => simp [hclosing]
  | next n _ hstatement _ =>
    obtain ⟨k, js, rfl, -⟩ := hstatement.startsStatement
    simp

/-- What the kinds of the tokens say about the next operand, the tokens say as well. -/
theorem not_startsOperand_before_sequence {closing ks : List TokenKind}
    {statements : List Statement} {ending : Ending} {tokens rest : List Token}
    (h : (Clause.sequence closing).Spells ks statements ending) (hspans : Spans ks tokens rest)
    (hclosing : closing = [.punctuation .closeBrace] ∨ closing = [] ∧ rest = [])
    (hnext : ∀ k ∈ ks.head?, TokenKind.startsOperand k = false) :
    startsOperand tokens = false := by
  cases ks with
  | nil =>
    rcases hclosing with rfl | ⟨rfl, rfl⟩
    · exact absurd rfl (h.sequence_ne_nil (List.cons_ne_nil _ _))
    · rw [hspans.eq_of_nil]
      rfl
  | cons k js =>
    obtain ⟨token, middle, rfl, rfl, -⟩ := hspans.uncons
    exact hnext token.kind rfl

/-- Behind a body come the branches of an `else`, or what follows the choice. -/
theorem stops_before_others {ks : List TokenKind} {branches : Branches} {before ending : Ending}
    {tokens rest : List Token} (h : (Clause.others before).Spells ks branches ending)
    (hspans : Spans ks tokens rest) (hrest : ending.Stops rest) : before.Stops tokens := by
  have helse {behind : List Token} {token : Token} (hkind : token.kind = .word "else")
      (hbefore : before.otherwise = false) : before.Stops (token :: behind) := by
    refine ⟨(stops_cons (by rw [hkind]; decide)).toStopsSum, fun _ => ?_, fun hopen => ?_⟩
    · exact not_startsOperand_of_reserved hkind rfl
    · rw [hbefore] at hopen
      cases hopen
  cases h with
  | done =>
    cases hspans.eq_of_nil
    exact ⟨hrest.sum, hrest.operand, fun _ => hrest.otherwise rfl⟩
  | otherwise hbefore _ _ =>
    obtain ⟨token, behind, rfl, hkind, -⟩ := hspans.uncons
    exact helse hkind hbefore
  | otherIf hbefore _ =>
    obtain ⟨token, behind, rfl, hkind, -⟩ := hspans.uncons
    exact helse hkind hbefore

/-! ## Clauses -/

/-- The reading takes the tokens up to `rest`, and maybe the semicolons that follow. -/
def GivesClause {α : Type} {input : List Token} (result : Except SyntaxError (Taken α input))
    (value : α) (rest : List Token) : Prop :=
  ∃ rest', (rest' = rest ∨ rest' = skipSemicolons rest) ∧ Gives result value rest'

/-- The tokens from `tokens` up to `rest` are read as a clause of this meaning. A sequence may start
with any number of semicolons. -/
def ReadsClause (clause : Clause) (meaning : clause.Meaning) (ending : Ending)
    (tokens rest : List Token) : Prop :=
  match clause, meaning with
  | .statement, s => ending.Stops rest → GivesClause (statement stop tokens) s rest
  | .branches, choices => ending.Stops rest → GivesClause (branches stop tokens) choices rest
  | .others _, choices =>
    ending.Stops rest → ∀ (input start : List Token) (h : start.length < input.length),
      start = tokens ∨ start = skipSemicolons tokens →
        GivesClause (otherBranches stop input start h) choices rest
  | .body, block => ending.Stops rest → GivesClause (body stop tokens) block rest
  | .sequence closing, sequence =>
    ∀ start, skipSemicolons start = skipSemicolons tokens →
      (closing = [.punctuation .closeBrace] → Gives (block stop start) sequence rest) ∧
        (closing = [] → rest = [] → statements stop start = .ok sequence)

section Actions

variable {stop : Position} {tokens rest : List Token}

theorem stopsSum_before_semicolons {n : Nat} (h : Spans (semicolons n) tokens rest)
    (hrest : StopsSum rest) : StopsSum tokens := by
  cases n with
  | zero =>
    cases h.eq_of_nil
    exact hrest
  | succ n =>
    obtain ⟨token, middle, rfl, hkind, -⟩ := h.uncons
    exact (stops_cons (by rw [hkind]; decide)).toStopsSum

/-- Where an operand list is not closed by semicolons, no operand may follow. -/
theorem not_startsOperand_before_semicolons {n : Nat} {more : Bool}
    (h : Spans (semicolons n) tokens rest)
    (hrest : (more && n == 0) = true → startsOperand rest = false) :
    more = true → startsOperand tokens = false := by
  intro hmore
  cases n with
  | zero =>
    cases h.eq_of_nil
    exact hrest (by simp [hmore])
  | succ n =>
    obtain ⟨token, middle, rfl, hkind, -⟩ := h.uncons
    show TokenKind.startsOperand token.kind = false
    rw [hkind]
    rfl

theorem takeOf?_if_of_gives {statement : Statement}
    (h : Gives (simpleStatement stop tokens) statement rest) :
    takeOf? [.word "if"] tokens = none := by
  cases tokens with
  | nil => rfl
  | cons token tokens =>
    refine takeOf?_cons_of_not_mem fun hmem => ?_
    have hkind : token.kind = .word "if" := List.mem_singleton.mp hmem
    -- None of the tokens that a simple statement can start with is an `if`.
    obtain ⟨hlt, heq⟩ := h
    rw [simpleStatement, not_startsOperand_of_reserved hkind rfl, if_neg (by simp),
      take?_cons_of_eq_none (by rw [hkind]; rfl), take?_cons_of_eq_none (by rw [hkind]; rfl)] at heq
    dsimp only at heq
    rw [takeOf?_cons_of_not_mem (by simp [hkind]),
      takeOf?_cons_of_not_mem (by simp [hkind])] at heq
    cases heq

theorem takeOf?_else_of_skipSemicolons
    (h : takeOf? [.word "else"] (skipSemicolons rest) = none) :
    takeOf? [.word "else"] rest = none := by
  cases rest with
  | nil => rfl
  | cons token rest =>
    refine takeOf?_cons_of_not_mem fun hmem => ?_
    have hkind : token.kind = .word "else" := List.mem_singleton.mp hmem
    rw [skipSemicolons_cons (by rw [hkind]; decide), takeOf?_cons_of_mem hmem] at h
    cases h

end Actions

theorem Clause.Spells.body_cons {ks : List TokenKind} {body : List Statement} {ending : Ending}
    (h : Clause.body.Spells ks body ending) : ∃ k js, ks = k :: js := by
  cases h with
  | braces => exact ⟨_, _, rfl⟩
  | single hstatement =>
    obtain ⟨k, js, rfl, -⟩ := hstatement.startsStatement
    exact ⟨k, js, rfl⟩

section Sequences

variable {stop : Position} {start behind middle rest : List Token} {token : Token}

theorem gives_block_finish (hskip : skipSemicolons start = token :: rest)
    (hkind : token.kind = .punctuation .closeBrace) : Gives (block stop start) [] rest := by
  obtain ⟨hlt, heq⟩ : ∃ h, takeOf? [.punctuation .closeBrace] (skipSemicolons start) =
      some ⟨(), rest, h⟩ := by
    rw [hskip]
    exact ⟨_, takeOf?_cons_of_mem (by simp [hkind])⟩
  refine ⟨Nat.lt_of_lt_of_le hlt (length_skipSemicolons start), ?_⟩
  rw [block, heq]
  rfl

theorem gives_block_next {statement : Statement} {statements : List Statement}
    (hskip : skipSemicolons start = token :: behind)
    (hkind : token.kind ≠ .punctuation .closeBrace)
    (hfirst : Gives (Parser.statement stop (skipSemicolons start)) statement middle)
    (hmore : Gives (block stop middle) statements rest) :
    Gives (block stop start) (statement :: statements) rest := by
  have hnone : takeOf? [.punctuation .closeBrace] (skipSemicolons start) = none := by
    rw [hskip]
    exact takeOf?_cons_of_not_mem (by simpa using hkind)
  obtain ⟨hltFirst, heqFirst⟩ := hfirst
  obtain ⟨hltMore, heqMore⟩ := hmore
  have hle := length_skipSemicolons start
  refine ⟨by omega, ?_⟩
  rw [block, hnone]
  dsimp only
  rw [if_neg (by simp [hskip]), heqFirst, ok_bind]
  dsimp only
  rw [heqMore]
  rfl

theorem statements_next {statement : Statement} {statements : List Statement}
    (hskip : skipSemicolons start = token :: behind)
    (hfirst : Gives (Parser.statement stop (skipSemicolons start)) statement middle)
    (hmore : Parser.statements stop middle = .ok statements) :
    Parser.statements stop start = .ok (statement :: statements) := by
  obtain ⟨hlt, heq⟩ := hfirst
  rw [Parser.statements]
  dsimp only
  rw [if_neg (by simp [hskip]), heq, ok_bind]
  dsimp only
  rw [hmore]
  rfl

end Sequences

section Clauses

variable {stop : Position} {tokens behind rest : List Token} {token word : Token}
  {statement : Statement} {branches : Branches} {body : List Statement}

theorem gives_action {middle : List Token} {n : Nat} (hspans : Spans (semicolons n) middle rest)
    (h : Gives (simpleStatement stop tokens) statement middle) :
    GivesClause (Parser.statement stop tokens) statement rest := by
  have hif := takeOf?_if_of_gives h
  obtain ⟨hlt, heq⟩ := h
  -- The reader takes all semicolons that follow, not only those that the clause spells.
  have hskip : skipSemicolons rest = skipSemicolons middle := (skipSemicolons_of_spans hspans).symm
  have hle := length_skipSemicolons middle
  refine ⟨skipSemicolons rest, .inr rfl, by rw [hskip]; omega, ?_⟩
  rw [Parser.statement, hif]
  dsimp only
  rw [heq]
  simp only [hskip]
  rfl

theorem gives_choose (hk : token.kind = .word "if")
    (h : GivesClause (Parser.branches stop behind) branches rest) :
    GivesClause (Parser.statement stop (token :: behind)) (.choose branches) rest := by
  obtain ⟨rest', hrest', hlt, heq⟩ := h
  refine ⟨rest', hrest', Nat.lt_succ_of_lt hlt, ?_⟩
  rw [Parser.statement, takeOf?_cons_of_mem (by simp [hk])]
  dsimp only
  rw [heq]
  rfl

theorem gives_branch {opened closed : Token} {inner : List Token} {condition : Expr}
    (hopened : opened.kind = .punctuation .openParen)
    (hclosed : closed.kind = .punctuation .closeParen)
    (hcondition : ReadsExpr stop .disjunction condition tokens (closed :: inner))
    (hbody : GivesClause (Parser.body stop inner) body behind)
    (hothers : ∀ (input start : List Token) (h : start.length < input.length),
      start = behind ∨ start = skipSemicolons behind →
        GivesClause (otherBranches stop input start h) branches rest) :
    GivesClause (Parser.branches stop (opened :: tokens)) (.branch condition body branches)
      rest := by
  obtain ⟨hltCondition, heqCondition⟩ :=
    hcondition.gives_disjunction (stops_cons (by rw [hclosed]; decide))
  obtain ⟨start, hstart, hltBody, heqBody⟩ := hbody
  have hlt : start.length < (opened :: tokens).length := by
    simp only [List.length_cons] at hltCondition ⊢
    omega
  obtain ⟨rest', hrest', hltOthers, heqOthers⟩ := hothers (opened :: tokens) start hlt hstart
  refine ⟨rest', hrest', hltOthers, ?_⟩
  -- A parenthesis, the condition, another one, the body and the other branches, one by one.
  rw [Parser.branches, expectMark, takeOf?_cons_of_mem (by simp [hopened])]
  dsimp only
  rw [ok_bind]
  dsimp only
  rw [heqCondition, ok_bind]
  dsimp only
  rw [expectMark, takeOf?_cons_of_mem (by simp [hclosed])]
  dsimp only
  rw [ok_bind]
  dsimp only
  rw [heqBody, ok_bind]
  dsimp only
  rw [heqOthers]
  rfl

theorem gives_otherwise {input : List Token} (hlt : (token :: word :: behind).length < input.length)
    (hk : token.kind = .word "else") (hword : word.kind ∉ [TokenKind.word "if"])
    (h : GivesClause (Parser.body stop (word :: behind)) body rest) :
    GivesClause (otherBranches stop input (token :: word :: behind) hlt) (.otherwise body)
      rest := by
  obtain ⟨rest', hrest', hltBody, heqBody⟩ := h
  refine ⟨rest', hrest', by simp only [List.length_cons] at hlt hltBody; omega, ?_⟩
  rw [otherBranches, takeOf?_cons_of_mem (by simp [hk])]
  dsimp only
  rw [takeOf?_cons_of_not_mem hword]
  dsimp only
  rw [heqBody]
  rfl

theorem gives_otherIf {input : List Token} (hlt : (token :: word :: behind).length < input.length)
    (hk : token.kind = .word "else") (hword : word.kind = .word "if")
    (h : GivesClause (Parser.branches stop behind) branches rest) :
    GivesClause (otherBranches stop input (token :: word :: behind) hlt) branches rest := by
  obtain ⟨rest', hrest', hltMore, heqMore⟩ := h
  refine ⟨rest', hrest', by simp only [List.length_cons] at hlt; omega, ?_⟩
  rw [otherBranches, takeOf?_cons_of_mem (by simp [hk])]
  dsimp only
  rw [takeOf?_cons_of_mem (by simp [hword])]
  dsimp only
  rw [heqMore]
  rfl

theorem gives_braces (hk : token.kind = .punctuation .openBrace)
    (h : Gives (block stop behind) body rest) :
    GivesClause (Parser.body stop (token :: behind)) body rest := by
  obtain ⟨hlt, heq⟩ := h
  refine ⟨rest, .inl rfl, Nat.lt_succ_of_lt hlt, ?_⟩
  rw [Parser.body, takeOf?_cons_of_mem (by simp [hk])]
  dsimp only
  rw [heq]
  rfl

theorem gives_single (hk : token.kind ∉ [TokenKind.punctuation .openBrace])
    (h : GivesClause (Parser.statement stop (token :: behind)) statement rest) :
    GivesClause (Parser.body stop (token :: behind)) [statement] rest := by
  obtain ⟨rest', hrest', hlt, heq⟩ := h
  refine ⟨rest', hrest', hlt, ?_⟩
  rw [Parser.body, takeOf?_cons_of_not_mem hk]
  dsimp only
  rw [heq]
  rfl

end Clauses

/-- Every clause is read by its reader from the tokens that spell it. -/
theorem Clause.Spells.reads {clause : Clause} {ks : List TokenKind} {meaning : clause.Meaning}
    {ending : Ending} (h : clause.Spells ks meaning ending) {tokens rest : List Token}
    (hspans : Spans ks tokens rest) : ReadsClause stop clause meaning ending tokens rest := by
  induction h generalizing tokens rest with
  | action n haction =>
    intro hrest
    obtain ⟨middle, hspansAction, hsemicolons⟩ := hspans.split
    exact gives_action hsemicolons
      (haction.gives hspansAction (stopsSum_before_semicolons hsemicolons hrest.sum)
        (not_startsOperand_before_semicolons hsemicolons hrest.operand))
  | choose _ ih =>
    intro hrest
    obtain ⟨token, behind, rfl, hkind, hbehind⟩ := hspans.uncons
    exact gives_choose hkind (ih hbehind hrest)
  | branch hcondition _ hothers ihBody ihOthers =>
    intro hrest
    obtain ⟨opened, afterOpened, rfl, hopened, hmore⟩ := hspans.uncons
    obtain ⟨middle, hspansCondition, hmore⟩ := hmore.split
    obtain ⟨closed, afterClosed, rfl, hclosed, hmore⟩ := hmore.uncons
    obtain ⟨behind, hspansBody, hspansOthers⟩ := hmore.split
    have hbody := ihBody hspansBody (stops_before_others hothers hspansOthers hrest)
    exact gives_branch hopened hclosed (hcondition.reads stop hspansCondition) hbody
      (ihOthers hspansOthers hrest)
  | done =>
    intro hrest input start hlt hstart
    cases hspans.eq_of_nil
    -- The body before may have taken the semicolons that follow; no `else` is behind them.
    have hskip := hrest.otherwise rfl
    have hnone : takeOf? [.word "else"] start = none := by
      rcases hstart with rfl | rfl
      · exact takeOf?_else_of_skipSemicolons hskip
      · exact hskip
    refine ⟨start, hstart, hlt, ?_⟩
    rw [otherBranches, hnone]
  | otherwise hbefore hif hbody ih =>
    intro hrest input start hlt hstart
    obtain ⟨token, behind, rfl, hkind, hbehind⟩ := hspans.uncons
    rw [skipSemicolons_cons (by rw [hkind]; decide), or_self] at hstart
    cases hstart
    -- An `if` behind the `else` would start another branch, so the body must not start with one.
    have hgives := ih hbehind hrest
    obtain ⟨k, js, rfl⟩ := hbody.body_cons
    obtain ⟨word, behind, rfl, rfl, -⟩ := hbehind.uncons
    exact gives_otherwise hlt hkind (by simpa using hif) hgives
  | otherIf hbefore _ ih =>
    intro hrest input start hlt hstart
    obtain ⟨token, behind, rfl, hkind, hmore⟩ := hspans.uncons
    obtain ⟨word, behind, rfl, hword, hbehind⟩ := hmore.uncons
    rw [skipSemicolons_cons (by rw [hkind]; decide), or_self] at hstart
    cases hstart
    exact gives_otherIf hlt hkind hword (ih hbehind hrest)
  | braces _ ih =>
    intro _
    obtain ⟨token, behind, rfl, hkind, hbehind⟩ := hspans.uncons
    exact gives_braces hkind ((ih hbehind behind rfl).1 rfl)
  | single hspells ih =>
    intro hrest
    have hgives := ih hspans hrest
    obtain ⟨k, js, rfl, hk⟩ := hspells.startsStatement
    obtain ⟨token, behind, rfl, rfl, -⟩ := hspans.uncons
    have hbrace : token.kind ∉ [TokenKind.punctuation .openBrace] := fun hmem => by
      rw [List.mem_singleton.mp hmem] at hk
      exact absurd hk (by decide)
    exact gives_single hbrace hgives
  | @finish closing n =>
    intro start hstart
    obtain ⟨middle, hsemicolons, hmiddle⟩ := hspans.split
    rw [skipSemicolons_of_spans hsemicolons] at hstart
    constructor
    · rintro rfl
      obtain ⟨token, behind, rfl, hkind, hbehind⟩ := hmiddle.uncons
      cases hbehind.eq_of_nil
      rw [skipSemicolons_cons (by rw [hkind]; decide)] at hstart
      exact gives_block_finish hstart hkind
    · rintro rfl rfl
      cases hmiddle.eq_of_nil
      rw [Parser.statements]
      dsimp only
      rw [if_pos (by rw [hstart]; rfl)]
  | @next ks js closing statement statements ending last n hnext hspells hmore ih ihMore =>
    intro start hstart
    obtain ⟨first, hsemicolons, hspansNext⟩ := hspans.split
    obtain ⟨middle, hspansStatement, hspansMore⟩ := hspansNext.split
    rw [skipSemicolons_of_spans hsemicolons] at hstart
    obtain ⟨k, is, rfl, hk⟩ := hspells.startsStatement
    obtain ⟨token, behind, rfl, rfl, -⟩ := hspansStatement.uncons
    have hgoes : goesOn token.kind = true := by rw [goesOn, hk, Bool.true_or]
    rw [skipSemicolons_cons (goesOn_ne_semicolon hgoes)] at hstart
    have hfirst (hclosing : closing = [.punctuation .closeBrace] ∨ closing = [] ∧ rest = []) :
        GivesClause (Parser.statement stop (skipSemicolons start)) statement middle := by
      rw [hstart]
      have hgoesOn := goesOn_of_sequence hmore hspansMore hclosing
      refine ih hspansStatement ⟨hgoesOn.stopsSum, fun hoperand => ?_, fun _ => ?_⟩
      · exact not_startsOperand_before_sequence hmore hspansMore hclosing (hnext hoperand)
      · exact hgoesOn.not_otherwise
    -- Semicolons that the statement takes or leaves make no difference to the sequence.
    have hsame {middle' : List Token} (h : middle' = middle ∨ middle' = skipSemicolons middle) :
        skipSemicolons middle' = skipSemicolons middle := by
      rcases h with rfl | rfl
      · rfl
      · exact skipSemicolons_skipSemicolons middle
    constructor
    · intro hclosing
      obtain ⟨middle', hmiddle', hgives⟩ := hfirst (.inl hclosing)
      have hbrace : token.kind ≠ .punctuation .closeBrace := fun hkind => by
        rw [hkind] at hk
        exact absurd hk (by decide)
      have hgivesMore := (ihMore hspansMore middle' (hsame hmiddle')).1 hclosing
      exact gives_block_next hstart hbrace hgives hgivesMore
    · intro hclosing hrest
      obtain ⟨middle', hmiddle', hgives⟩ := hfirst (.inr ⟨hclosing, hrest⟩)
      have hgivesMore := (ihMore hspansMore middle' (hsame hmiddle')).2 hclosing hrest
      exact statements_next hstart hgives hgivesMore

/-! ## Scripts -/

/-- Every script is read from the tokens that spell it. -/
theorem statements_of_spells {tokens : List Token} {program : List Statement} {ending : Ending}
    (h : (Clause.sequence []).Spells (tokens.map Token.kind) program ending) :
    statements stop tokens = .ok program :=
  (h.reads stop (Spans.all tokens) tokens rfl).2 rfl rfl

end MediaNaming.Grammar
