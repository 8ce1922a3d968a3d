import MediaNaming.Proofs.Grammar.Words

/-!
# The grammar of expressions

Which tokens spell which expression, said without a word about how they are read. An operand
stands at a level: an expression of a looser level has to be put in parentheses there.
-/

namespace MediaNaming.Grammar

open MediaNaming.Parser

/-! ## Levels -/

/-- The levels of expressions, from the loosest operators to the tightest. -/
inductive Level where
  | disjunction
  | conjunction
  | negation
  | relation
  | sum
  | selection
  | primary
deriving DecidableEq

namespace Level

/-- The next tighter level. -/
def tighter? : Level → Option Level
  | disjunction => some conjunction
  | conjunction => some negation
  | negation => some relation
  | relation => some sum
  | sum => some selection
  | selection => some primary
  | primary => none

/-- How tight the level is. -/
def rank : Level → Nat
  | disjunction => 0
  | conjunction => 1
  | negation => 2
  | relation => 3
  | sum => 4
  | selection => 5
  | primary => 6

/-- Whether a negation can stand at the level without parentheses. -/
def takesNegation : Level → Bool
  | disjunction => true
  | conjunction => true
  | negation => true
  | relation => false
  | sum => false
  | selection => false
  | primary => false

theorem takesNegation_of_tighter? {level inner : Level} (h : level.tighter? = some inner)
    (hinner : inner.takesNegation = true) : level.takesNegation = true := by
  cases level <;> cases h <;> first | rfl | cases hinner

end Level

/-! ## Phrases -/

/-- The kinds of phrases that expressions are made of. -/
inductive Phrase where
  | expr (level : Level)
  /-- The further parts of a sum, each behind a plus sign. -/
  | moreParts
  | filter
  /-- The further filters of a chain, each behind an and. -/
  | moreFilters
  /-- The arguments of a call up to the closing parenthesis. -/
  | arguments
  /-- The operands of a statement, side by side. -/
  | operands

/-- What a phrase stands for. -/
abbrev Phrase.Meaning : Phrase → Type
  | expr _ => Expr
  | moreParts => List Expr
  | filter => Filter
  | moreFilters => List Filter
  | arguments => List Expr
  | operands => List Expr

/-- The tokens of these kinds spell a phrase of this meaning. -/
inductive Phrase.Spells : (phrase : Phrase) → List TokenKind → phrase.Meaning → Prop
  | tighter {level inner : Level} {ks : List TokenKind} {e : Expr}
      (hlevel : level.tighter? = some inner) :
      Spells (.expr inner) ks e → Spells (.expr level) ks e
  | or {ks js : List TokenKind} {k : TokenKind} {left right : Expr} (hk : k ∈ orKinds) :
      Spells (.expr .disjunction) ks left → Spells (.expr .conjunction) js right →
      Spells (.expr .disjunction) (ks ++ k :: js) (.or left right)
  | and {ks js : List TokenKind} {k : TokenKind} {left right : Expr} (hk : k ∈ andKinds) :
      Spells (.expr .conjunction) ks left → Spells (.expr .negation) js right →
      Spells (.expr .conjunction) (ks ++ k :: js) (.and left right)
  | not {ks : List TokenKind} {k : TokenKind} {operand : Expr} (hk : k ∈ notKinds) :
      Spells (.expr .negation) ks operand → Spells (.expr .negation) (k :: ks) (.not operand)
  | compare {ks js : List TokenKind} {k : TokenKind} {comparison : Comparison}
      {left right : Expr} (hk : comparison? k = some comparison) :
      Spells (.expr .sum) ks left → Spells (.expr .sum) js right →
      Spells (.expr .relation) (ks ++ k :: js) (.compare comparison left right)
  | concat {ks js : List TokenKind} {part : Expr} {parts : List Expr} (hparts : parts ≠ []) :
      Spells (.expr .selection) ks part → Spells .moreParts js parts →
      Spells (.expr .sum) (ks ++ js) (.concat (part :: parts))
  | has {ks js is : List TokenKind} {source : Expr} {filter : Filter} {filters : List Filter} :
      Spells (.expr .selection) ks source → Spells .filter js filter →
      Spells .moreFilters is filters →
      Spells (.expr .selection) (ks ++ .word "has" :: (js ++ is)) (.has source (filter :: filters))
  | text (value : String) : Spells (.expr .primary) [.text value] (.text value)
  | number (value : Int64) : Spells (.expr .primary) [.number value] (.number value)
  | flag (value : Bool) : Spells (.expr .primary) [.word (flagName value)] (.flag value)
  | label (label : Label) : Spells (.expr .primary) [.word label.name] (.label label)
  | group {ks : List TokenKind} {e : Expr} :
      Spells (.expr .disjunction) ks e →
      Spells (.expr .primary)
        (.punctuation .openParen :: (ks ++ [.punctuation .closeParen])) e
  | call {function : Function} {ks : List TokenKind} {arguments : List Expr} {e : Expr}
      (hcall : function.call? arguments = some e) :
      Spells .arguments ks arguments →
      Spells (.expr .primary) (.word function.name :: .punctuation .openParen :: ks) e
  | noParts : Spells .moreParts [] []
  | part {ks js : List TokenKind} {part : Expr} {parts : List Expr} :
      Spells (.expr .selection) ks part → Spells .moreParts js parts →
      Spells .moreParts (.punctuation .plus :: (ks ++ js)) (part :: parts)
  | keyword {k : TokenKind} {filter : Filter} (hk : keyword? k = some filter) :
      Spells .filter [k] filter
  | wanted {ks : List TokenKind} {e : Expr} :
      Spells (.expr .primary) ks e → Spells .filter ks (.text e)
  | noFilters : Spells .moreFilters [] []
  | andKeyword {ks : List TokenKind} {j k : TokenKind} {filter : Filter} {filters : List Filter}
      (hj : j ∈ andKinds) (hk : keyword? k = some filter) :
      Spells .moreFilters ks filters → Spells .moreFilters (j :: k :: ks) (filter :: filters)
  | noArguments : Spells .arguments [.punctuation .closeParen] []
  | lastArgument {ks : List TokenKind} {e : Expr} :
      Spells (.expr .disjunction) ks e →
      Spells .arguments (ks ++ [.punctuation .closeParen]) [e]
  | argument {ks js : List TokenKind} {e : Expr} {arguments : List Expr}
      (harguments : arguments ≠ []) :
      Spells (.expr .disjunction) ks e → Spells .arguments js arguments →
      Spells .arguments (ks ++ .punctuation .comma :: js) (e :: arguments)
  | noOperands : Spells .operands [] []
  | operand {ks js : List TokenKind} {part : Expr} {parts : List Expr} :
      Spells (.expr .sum) ks part → Spells .operands js parts →
      Spells .operands (ks ++ js) (part :: parts)

/-! ## How phrases start -/

/-- Whether an expression at the level can start with the token: never with a filter's keyword. -/
structure Opens (level : Level) (k : TokenKind) : Prop where
  not_keyword : keyword? k = none
  starts : TokenKind.startsOperand k = true ∨ level.takesNegation = true ∧ k ∈ notKinds

theorem opens_word {level : Level} {name : String} (h : IsOperandWord name) :
    Opens level (.word name) where
  not_keyword := h.not_keyword
  starts := .inl (by rw [TokenKind.startsOperand, h.not_reserved]; rfl)

theorem Opens.of_tighter? {level inner : Level} {k : TokenKind}
    (hlevel : level.tighter? = some inner) (h : Opens inner k) : Opens level k where
  not_keyword := h.not_keyword
  starts := by
    rcases h.starts with hstart | ⟨hinner, hk⟩
    · exact .inl hstart
    · exact .inr ⟨Level.takesNegation_of_tighter? hlevel hinner, hk⟩

/-- How the tokens of a phrase start; only expressions have to start in some way. -/
def StartsRight : Phrase → List TokenKind → Prop
  | .expr level, ks => ∃ k js, ks = k :: js ∧ Opens level k
  | _, _ => True

theorem Phrase.Spells.startsRight {phrase : Phrase} {ks : List TokenKind}
    {meaning : phrase.Meaning} (h : phrase.Spells ks meaning) : StartsRight phrase ks := by
  -- An expression starts as its leftmost operand does, down to the token of a primary one.
  induction h with
  | tighter hlevel _ ih =>
    obtain ⟨k, js, rfl, hk⟩ := ih
    exact ⟨k, js, rfl, hk.of_tighter? hlevel⟩
  | or _ _ _ ih _ =>
    obtain ⟨k, js, rfl, hk⟩ := ih
    exact ⟨k, _, rfl, hk⟩
  | and _ _ _ ih _ =>
    obtain ⟨k, js, rfl, hk⟩ := ih
    exact ⟨k, _, rfl, hk⟩
  | @not ks k _ hk =>
    refine ⟨k, ks, rfl, ?_, .inr ⟨rfl, hk⟩⟩
    simp only [notKinds, List.mem_cons, List.not_mem_nil, or_false] at hk
    rcases hk with rfl | rfl <;> decide +kernel
  | compare _ _ _ ih _ =>
    obtain ⟨k, js, rfl, hk⟩ := ih
    exact ⟨k, _, rfl, hk.of_tighter? rfl⟩
  | concat _ _ _ ih _ =>
    obtain ⟨k, js, rfl, hk⟩ := ih
    exact ⟨k, _, rfl, hk.of_tighter? rfl⟩
  | has _ _ _ ih _ _ =>
    obtain ⟨k, js, rfl, hk⟩ := ih
    exact ⟨k, _, rfl, hk⟩
  | text value => exact ⟨_, _, rfl, rfl, .inl rfl⟩
  | number value => exact ⟨_, _, rfl, rfl, .inl rfl⟩
  | flag value => exact ⟨_, _, rfl, opens_word (isOperandWord_flagName value)⟩
  | label label => exact ⟨_, _, rfl, opens_word (isOperandWord_labelName label)⟩
  | group => exact ⟨_, _, rfl, rfl, .inl rfl⟩
  | @call function => exact ⟨_, _, rfl, opens_word (isOperandWord_functionName function)⟩
  | _ => trivial

/-- An expression that no negation can be starts like an operand of a statement. -/
theorem Phrase.Spells.startsOperand {level : Level} {ks : List TokenKind} {e : Expr}
    (h : (Phrase.expr level).Spells ks e) (hlevel : level.takesNegation = false) :
    ∃ k js, ks = k :: js ∧ TokenKind.startsOperand k = true := by
  obtain ⟨k, js, rfl, hk⟩ := h.startsRight
  rcases hk.starts with hstart | ⟨hnegation, -⟩
  · exact ⟨k, js, rfl, hstart⟩
  · rw [hlevel] at hnegation
    cases hnegation

end MediaNaming.Grammar
