import MediaNaming.Proofs.Grammar.Statements
import MediaNaming.Proofs.Grammar.Tokens

/-!
# Spelt expressions are read

The parser reads every expression that its tokens spell, as long as what stands behind could not be
taken in as well.
-/

namespace MediaNaming.Grammar

open MediaNaming.Parser

/-! ## Readings -/

/-- The reading takes the tokens up to `rest`, for this value. -/
def Gives {α : Type} {input : List Token} (result : Except SyntaxError (Taken α input)) (value : α)
    (rest : List Token) : Prop :=
  ∃ h, result = .ok ⟨value, rest, h⟩

theorem Gives.map {α β : Type} {input rest : List Token} {value : α}
    {result : Except SyntaxError (Taken α input)} (h : Gives result value rest) (f : α → β) :
    Gives (result >>= fun taken => .ok (taken.map f)) (f value) rest := by
  obtain ⟨hlt, rfl⟩ := h
  exact ⟨hlt, rfl⟩

/-! ## Where expressions stop -/

/-- Nothing in front could belong to a sum or to something tighter. -/
structure StopsSum (rest : List Token) : Prop where
  chain : filterChain rest = ([], rest)
  has : takeOf? [.word "has"] rest = none
  plus : takeOf? [.punctuation .plus] rest = none

structure StopsRelation (rest : List Token) : Prop extends StopsSum rest where
  comparison : take? comparison? rest = none

structure StopsConjunction (rest : List Token) : Prop extends StopsRelation rest where
  and : takeOf? andKinds rest = none

structure StopsDisjunction (rest : List Token) : Prop extends StopsConjunction rest where
  or : takeOf? orKinds rest = none

/-- Whether the token can stand behind an expression and belong to it. -/
def isOperator (k : TokenKind) : Bool :=
  andKinds.contains k || orKinds.contains k || k == .word "has" || k == .punctuation .plus ||
    (comparison? k).isSome

theorem filterChain_cons_of_not_and {token : Token} {rest : List Token}
    (h : token.kind ∉ andKinds) : filterChain (token :: rest) = ([], token :: rest) := by
  cases rest with
  | nil => rfl
  | cons word rest =>
    rw [filterChain]
    split
    · rw [if_neg (by simpa using h)]
    · rfl

theorem filterChain_cons_cons_of_not_keyword {token word : Token} {rest : List Token}
    (h : keyword? word.kind = none) :
    filterChain (token :: word :: rest) = ([], token :: word :: rest) := by
  rw [filterChain, h]

theorem stops_nil : StopsDisjunction [] where
  chain := rfl
  has := rfl
  plus := rfl
  comparison := rfl
  and := rfl
  or := rfl

theorem stops_cons {token : Token} {rest : List Token} (h : isOperator token.kind = false) :
    StopsDisjunction (token :: rest) := by
  simp only [isOperator, Bool.or_eq_false_iff, beq_eq_false_iff_ne, Option.isSome_eq_false_iff,
    Option.isNone_iff_eq_none, List.contains_eq_mem, decide_eq_false_iff_not] at h
  obtain ⟨⟨⟨⟨hand, hor⟩, hhas⟩, hplus⟩, hcomparison⟩ := h
  exact {
    chain := filterChain_cons_of_not_and hand
    has := takeOf?_cons_of_not_mem (by simpa using hhas)
    plus := takeOf?_cons_of_not_mem (by simpa using hplus)
    comparison := take?_cons_of_eq_none hcomparison
    and := takeOf?_cons_of_not_mem hand
    or := takeOf?_cons_of_not_mem hor }

theorem isOperator_of_startsStatement {k : TokenKind} (h : startsStatement k = true) :
    isOperator k = false := by
  cases k with
  | word name =>
    cases hoperator : isOperator (.word name) with
    | false => rfl
    | true =>
      -- The operators that are words are reserved, and no statement starts with one of them.
      have hname : name = "and" ∨ name = "or" ∨ name = "has" := by
        simpa [isOperator, andKinds, orKinds, comparison?, or_assoc] using hoperator
      rcases hname with rfl | rfl | rfl <;> exact absurd h (by decide)
  | text value => rfl
  | number value => rfl
  | punctuation mark => cases mark <;> first | rfl | exact absurd h (by decide)

theorem stopsConjunction_of_or {token : Token} {rest : List Token} (h : token.kind ∈ orKinds) :
    StopsConjunction (token :: rest) := by
  simp only [orKinds, List.mem_cons, List.not_mem_nil, or_false] at h
  rcases h with h | h <;> exact {
    chain := filterChain_cons_of_not_and (by rw [h]; decide)
    has := takeOf?_cons_of_not_mem (by rw [h]; decide)
    plus := takeOf?_cons_of_not_mem (by rw [h]; decide)
    comparison := take?_cons_of_eq_none (by rw [h]; rfl)
    and := takeOf?_cons_of_not_mem (by rw [h]; decide) }

/-- An and belongs to a chain of filters only if a filter's keyword follows. -/
theorem stopsRelation_of_and {token word : Token} {rest : List Token} (h : token.kind ∈ andKinds)
    (hword : keyword? word.kind = none) : StopsRelation (token :: word :: rest) := by
  simp only [andKinds, List.mem_cons, List.not_mem_nil, or_false] at h
  rcases h with h | h <;> exact {
    chain := filterChain_cons_cons_of_not_keyword hword
    has := takeOf?_cons_of_not_mem (by rw [h]; decide)
    plus := takeOf?_cons_of_not_mem (by rw [h]; decide)
    comparison := take?_cons_of_eq_none (by rw [h]; rfl) }

theorem stopsSum_of_comparison {token : Token} {rest : List Token} {comparison : Comparison}
    (h : comparison? token.kind = some comparison) : StopsSum (token :: rest) := by
  unfold comparison? at h
  split at h
  -- Six cases are the marks of comparisons, the last one is any other token.
  case h_7 => cases h
  all_goals
    next hkind => exact {
      chain := filterChain_cons_of_not_and (by rw [hkind]; decide)
      has := takeOf?_cons_of_not_mem (by rw [hkind]; decide)
      plus := takeOf?_cons_of_not_mem (by rw [hkind]; decide) }

/-! ## Expressions -/

variable (stop : Position)

/-- The tokens from `tokens` up to `rest` are read as an expression of a level. Where operators
associate to the left, `rest` may go on with more of them: the reading is then at the point where
it has the expression and looks for these. -/
def ReadsExpr (level : Level) (e : Expr) (tokens rest : List Token) : Prop :=
  match level with
  | .disjunction =>
    StopsConjunction rest → ∃ h, disjunction stop tokens = moreDisjuncts stop tokens e rest h
  | .conjunction =>
    StopsRelation rest → ∃ h, conjunction stop tokens = moreConjuncts stop tokens e rest h
  | .negation => StopsRelation rest → Gives (negation stop tokens) e rest
  | .relation => StopsRelation rest → Gives (relation stop tokens) e rest
  | .sum => StopsSum rest → Gives (sum stop tokens) e rest
  | .selection =>
    filterChain rest = ([], rest) → ∃ h, selection stop tokens = moreFilters stop tokens e rest h
  | .primary => Gives (primary stop tokens) e rest

/-- The tokens from `tokens` up to `rest` are read as a phrase of this meaning. -/
def Reads (phrase : Phrase) (meaning : phrase.Meaning) (tokens rest : List Token) : Prop :=
  match phrase, meaning with
  | .expr level, e => ReadsExpr stop level e tokens rest
  | .moreParts, parts =>
    StopsSum rest → ∀ (input : List Token) (h : tokens.length < input.length),
      Gives (moreParts stop input tokens h) parts rest
  | .filter, f => Gives (filter stop tokens) f rest
  | .moreFilters, filters =>
    filterChain rest = ([], rest) → filterChain tokens = (filters, rest)
  | .arguments, arguments =>
    Gives (argumentList stop tokens) arguments rest ∧
      (arguments ≠ [] → Gives (someArguments stop tokens) arguments rest)
  | .operands, parts =>
    StopsSum rest → startsOperand rest = false →
      ∀ (input : List Token) (h : tokens.length < input.length),
        Gives (moreOperands stop input tokens h) parts rest

/-! ### Where the readers of operators end -/

section Ends

variable {stop : Position} {tokens rest : List Token} {e : Expr}

theorem gives_moreDisjuncts (h : rest.length < tokens.length)
    (hrest : takeOf? orKinds rest = none) :
    Gives (moreDisjuncts stop tokens e rest h) e rest := by
  refine ⟨h, ?_⟩
  rw [moreDisjuncts, hrest]

theorem gives_moreConjuncts (h : rest.length < tokens.length)
    (hrest : takeOf? andKinds rest = none) :
    Gives (moreConjuncts stop tokens e rest h) e rest := by
  refine ⟨h, ?_⟩
  rw [moreConjuncts, hrest]

theorem gives_moreFilters (h : rest.length < tokens.length)
    (hrest : takeOf? [.word "has"] rest = none) :
    Gives (moreFilters stop tokens e rest h) e rest := by
  refine ⟨h, ?_⟩
  rw [moreFilters, hrest]

theorem ReadsExpr.gives_disjunction (h : ReadsExpr stop .disjunction e tokens rest)
    (hrest : StopsDisjunction rest) : Gives (disjunction stop tokens) e rest := by
  obtain ⟨hlt, heq⟩ := h hrest.toStopsConjunction
  rw [heq]
  exact gives_moreDisjuncts hlt hrest.or

theorem ReadsExpr.gives_conjunction (h : ReadsExpr stop .conjunction e tokens rest)
    (hrest : StopsConjunction rest) : Gives (conjunction stop tokens) e rest := by
  obtain ⟨hlt, heq⟩ := h hrest.toStopsRelation
  rw [heq]
  exact gives_moreConjuncts hlt hrest.and

theorem ReadsExpr.gives_selection (h : ReadsExpr stop .selection e tokens rest)
    (hchain : filterChain rest = ([], rest)) (hhas : takeOf? [.word "has"] rest = none) :
    Gives (selection stop tokens) e rest := by
  obtain ⟨hlt, heq⟩ := h hchain
  rw [heq]
  exact gives_moreFilters hlt hhas

end Ends

/-! ### One level and the next -/

section Levels

variable {stop : Position} {tokens rest : List Token} {e : Expr}

theorem takeOf?_notKinds {level : Level} {ks : List TokenKind}
    (h : (Phrase.expr level).Spells ks e) (hlevel : level.takesNegation = false)
    (hspans : Spans ks tokens rest) : takeOf? notKinds tokens = none := by
  obtain ⟨k, js, rfl, hk⟩ := h.startsOperand hlevel
  obtain ⟨token, middle, rfl, rfl, -⟩ := hspans.uncons
  refine takeOf?_cons_of_not_mem fun hmem => ?_
  simp only [notKinds, List.mem_cons, List.not_mem_nil, or_false] at hmem
  rcases hmem with hkind | hkind <;> rw [hkind] at hk <;> exact absurd hk (by decide)

/-- An expression is read at the next looser level as well. -/
theorem ReadsExpr.of_tighter? {level inner : Level} {ks : List TokenKind}
    (hlevel : level.tighter? = some inner) (hspells : (Phrase.expr inner).Spells ks e)
    (hspans : Spans ks tokens rest) (h : ReadsExpr stop inner e tokens rest) :
    ReadsExpr stop level e tokens rest := by
  -- Each reader reads the next tighter level first; the operator that it then looks for is absent.
  cases level <;> cases hlevel
  case disjunction =>
    intro hrest
    obtain ⟨hlt, heq⟩ := h.gives_conjunction hrest
    refine ⟨hlt, ?_⟩
    rw [disjunction, heq]
    rfl
  case conjunction =>
    intro hrest
    obtain ⟨hlt, heq⟩ := h hrest
    refine ⟨hlt, ?_⟩
    rw [conjunction, heq]
    rfl
  case negation =>
    intro hrest
    obtain ⟨hlt, heq⟩ := h hrest
    refine ⟨hlt, ?_⟩
    rw [negation, takeOf?_notKinds hspells rfl hspans]
    exact heq
  case relation =>
    intro hrest
    obtain ⟨hlt, heq⟩ := h hrest.toStopsSum
    refine ⟨hlt, ?_⟩
    rw [relation, heq, ok_bind]
    dsimp only
    rw [hrest.comparison]
    rfl
  case sum =>
    intro hrest
    obtain ⟨hlt, heq⟩ := h.gives_selection hrest.chain hrest.has
    refine ⟨hlt, ?_⟩
    rw [sum, heq, ok_bind]
    dsimp only
    rw [moreParts, hrest.plus]
    rfl
  case selection =>
    intro _
    obtain ⟨hlt, heq⟩ := h
    refine ⟨hlt, ?_⟩
    rw [selection, heq]
    rfl

end Levels

/-- Behind a part of a sum come more parts or what follows the sum; no filters in any case. -/
theorem stops_before_moreParts {ks : List TokenKind} {parts : List Expr} {tokens rest : List Token}
    (h : Phrase.moreParts.Spells ks parts) (hspans : Spans ks tokens rest) (hrest : StopsSum rest) :
    filterChain tokens = ([], tokens) ∧ takeOf? [.word "has"] tokens = none := by
  cases h with
  | noParts =>
    cases hspans.eq_of_nil
    exact ⟨hrest.chain, hrest.has⟩
  | part =>
    obtain ⟨token, middle, rfl, hkind, -⟩ := hspans.uncons
    exact ⟨filterChain_cons_of_not_and (by rw [hkind]; decide),
      takeOf?_cons_of_not_mem (by rw [hkind]; decide)⟩

/-- A sum ends where an operand starts. -/
theorem stops_before_operand {ks : List TokenKind} {e : Expr} {tokens rest : List Token}
    (h : (Phrase.expr .sum).Spells ks e) (hspans : Spans ks tokens rest) : StopsSum tokens := by
  obtain ⟨k, js, rfl, hk⟩ := h.startsOperand rfl
  obtain ⟨token, middle, rfl, rfl, -⟩ := hspans.uncons
  have hstops : StopsDisjunction (token :: middle) :=
    stops_cons (isOperator_of_startsStatement (startsStatement_of_startsOperand hk))
  exact hstops.toStopsSum

/-- Behind an operand come more operands or what follows them all; a sum ends in any case. -/
theorem stops_before_operands {ks : List TokenKind} {parts : List Expr} {tokens rest : List Token}
    (h : Phrase.operands.Spells ks parts) (hspans : Spans ks tokens rest) (hrest : StopsSum rest) :
    StopsSum tokens := by
  cases h with
  | noOperands =>
    cases hspans.eq_of_nil
    exact hrest
  | operand hpart _ =>
    obtain ⟨middle, hspansPart, -⟩ := hspans.split
    exact stops_before_operand hpart hspansPart

/-- A list of arguments that starts with one is not empty. -/
theorem gives_argumentList {stop : Position} {ks : List TokenKind} {e : Expr}
    {arguments : List Expr} {tokens middle rest : List Token}
    (h : (Phrase.expr .disjunction).Spells ks e) (hspans : Spans ks tokens middle)
    (hgives : Gives (someArguments stop tokens) arguments rest) :
    Gives (argumentList stop tokens) arguments rest := by
  obtain ⟨k, js, rfl, hopens⟩ := h.startsRight
  obtain ⟨token, behind, rfl, rfl, -⟩ := hspans.uncons
  -- No expression starts with the parenthesis that would close an empty list.
  have hclosed : token.kind ∉ [TokenKind.punctuation .closeParen] := fun hmem => by
    have hstarts := hopens.starts
    rw [List.mem_singleton.mp hmem] at hstarts
    exact absurd hstarts (by decide)
  obtain ⟨hlt, heq⟩ := hgives
  refine ⟨hlt, ?_⟩
  rw [argumentList, takeOf?_cons_of_not_mem hclosed]
  exact heq

/-! ### What is read with an operator -/

section Operators

variable {stop : Position} {tokens behind rest : List Token} {token : Token} {left right : Expr}

theorem reads_or (hk : token.kind ∈ orKinds)
    (hleft : ReadsExpr stop .disjunction left tokens (token :: behind))
    (hright : ReadsExpr stop .conjunction right behind rest) :
    ReadsExpr stop .disjunction (.or left right) tokens rest := by
  intro hrest
  obtain ⟨hlt, heq⟩ := hleft (stopsConjunction_of_or hk)
  obtain ⟨hltRight, heqRight⟩ := hright.gives_conjunction hrest
  refine ⟨by simp only [List.length_cons] at hlt; omega, ?_⟩
  rw [heq, moreDisjuncts, takeOf?_cons_of_mem hk]
  dsimp only
  rw [heqRight]
  rfl

theorem reads_and {word : Token} (hk : token.kind ∈ andKinds) (hword : keyword? word.kind = none)
    (hleft : ReadsExpr stop .conjunction left tokens (token :: word :: behind))
    (hright : ReadsExpr stop .negation right (word :: behind) rest) :
    ReadsExpr stop .conjunction (.and left right) tokens rest := by
  intro hrest
  -- The right operand does not start with a keyword, so the and is not part of a chain.
  obtain ⟨hlt, heq⟩ := hleft (stopsRelation_of_and hk hword)
  obtain ⟨hltRight, heqRight⟩ := hright hrest
  refine ⟨by simp only [List.length_cons] at hlt hltRight; omega, ?_⟩
  rw [heq, moreConjuncts, takeOf?_cons_of_mem hk]
  dsimp only
  rw [heqRight]
  rfl

theorem reads_not {operand : Expr} (hk : token.kind ∈ notKinds)
    (h : ReadsExpr stop .negation operand behind rest) :
    ReadsExpr stop .negation (.not operand) (token :: behind) rest := by
  intro hrest
  obtain ⟨hlt, heq⟩ := h hrest
  refine ⟨Nat.lt_succ_of_lt hlt, ?_⟩
  rw [negation, takeOf?_cons_of_mem hk]
  dsimp only
  rw [heq]
  rfl

theorem reads_compare {comparison : Comparison} (hk : comparison? token.kind = some comparison)
    (hleft : ReadsExpr stop .sum left tokens (token :: behind))
    (hright : ReadsExpr stop .sum right behind rest) :
    ReadsExpr stop .relation (.compare comparison left right) tokens rest := by
  intro hrest
  obtain ⟨hlt, heq⟩ := hleft (stopsSum_of_comparison hk)
  obtain ⟨hltRight, heqRight⟩ := hright hrest.toStopsSum
  refine ⟨by simp only [List.length_cons] at hlt; omega, ?_⟩
  rw [relation, heq, ok_bind]
  dsimp only
  rw [take?_cons_of_eq_some hk]
  dsimp only
  rw [heqRight]
  rfl

theorem reads_has {source : Expr} {filter : Filter} {filters : List Filter} {chain : List Token}
    (hk : token.kind = .word "has") (hle : rest.length ≤ chain.length)
    (hsource : ReadsExpr stop .selection source tokens (token :: behind))
    (hfilter : Gives (Parser.filter stop behind) filter chain)
    (hfilters : filterChain rest = ([], rest) → filterChain chain = (filters, rest)) :
    ReadsExpr stop .selection (.has source (filter :: filters)) tokens rest := by
  intro hrest
  have hhas : token.kind ∈ [TokenKind.word "has"] := by simp [hk]
  have hstop : filterChain (token :: behind) = ([], token :: behind) :=
    filterChain_cons_of_not_and (by rw [hk]; decide)
  obtain ⟨hlt, heq⟩ := hsource hstop
  obtain ⟨hltFilter, heqFilter⟩ := hfilter
  refine ⟨by simp only [List.length_cons] at hlt; omega, ?_⟩
  rw [heq, Parser.moreFilters, takeOf?_cons_of_mem hhas]
  dsimp only
  rw [heqFilter, ok_bind]
  simp only [hfilters hrest]

end Operators

/-! ### What is read of sums -/

section Sums

variable {stop : Position} {tokens middle rest : List Token} {part : Expr} {parts : List Expr}

theorem reads_concat {ks : List TokenKind} (hne : parts ≠ [])
    (hspells : Phrase.moreParts.Spells ks parts) (hspans : Spans ks middle rest)
    (hpart : ReadsExpr stop .selection part tokens middle)
    (hparts : Reads stop .moreParts parts middle rest) :
    ReadsExpr stop .sum (.concat (part :: parts)) tokens rest := by
  intro hrest
  obtain ⟨hchain, hhas⟩ := stops_before_moreParts hspells hspans hrest
  obtain ⟨hlt, heq⟩ := hpart.gives_selection hchain hhas
  obtain ⟨hltParts, heqParts⟩ := hparts hrest tokens hlt
  refine ⟨hltParts, ?_⟩
  rw [sum, heq, ok_bind]
  dsimp only
  rw [heqParts]
  -- One part alone would have been read as that part.
  cases parts with
  | nil => exact absurd rfl hne
  | cons => rfl

theorem reads_noParts : Reads stop .moreParts [] rest rest := by
  intro hrest input hlt
  refine ⟨hlt, ?_⟩
  rw [Parser.moreParts, hrest.plus]

theorem reads_part {ks : List TokenKind} {token : Token} (hk : token.kind = .punctuation .plus)
    (hspells : Phrase.moreParts.Spells ks parts) (hspans : Spans ks middle rest)
    (hpart : ReadsExpr stop .selection part tokens middle)
    (hparts : Reads stop .moreParts parts middle rest) :
    Reads stop .moreParts (part :: parts) (token :: tokens) rest := by
  intro hrest input hlt
  obtain ⟨hchain, hhas⟩ := stops_before_moreParts hspells hspans hrest
  obtain ⟨hltPart, heq⟩ := hpart.gives_selection hchain hhas
  have hltMore : middle.length < input.length := by simp only [List.length_cons] at hlt; omega
  obtain ⟨hltParts, heqParts⟩ := hparts hrest input hltMore
  refine ⟨hltParts, ?_⟩
  rw [Parser.moreParts, takeOf?_cons_of_mem (by simp [hk])]
  dsimp only
  rw [heq, ok_bind]
  dsimp only
  rw [heqParts]
  rfl

end Sums

/-! ### What is read without operators -/

section Primaries

variable {stop p : Position} {tokens rest : List Token} {token : Token} {e : Expr}

theorem gives_flag (value : Bool) :
    Gives (primary stop (⟨.word (flagName value), p⟩ :: rest)) (.flag value) rest := by
  refine ⟨Nat.lt_succ_self _, ?_⟩
  rw [primary, ofName?_flagName]
  dsimp only
  rw [wordValue_flagName]
  rfl

theorem gives_label (label : Label) :
    Gives (primary stop (⟨.word label.name, p⟩ :: rest)) (.label label) rest := by
  refine ⟨Nat.lt_succ_self _, ?_⟩
  rw [primary, ofName?_labelName]
  dsimp only
  rw [wordValue_labelName]
  rfl

theorem gives_group (hk : token.kind = .punctuation .closeParen)
    (h : ReadsExpr stop .disjunction e tokens (token :: rest)) :
    Gives (primary stop (⟨.punctuation .openParen, p⟩ :: tokens)) e rest := by
  obtain ⟨hlt, heq⟩ := h.gives_disjunction (stops_cons (by rw [hk]; decide))
  refine ⟨by simp only [List.length_cons] at hlt ⊢; omega, ?_⟩
  rw [primary, heq, ok_bind]
  dsimp only
  rw [expectMark, takeOf?_cons_of_mem (by simp [hk])]
  rfl

theorem gives_call {function : Function} {arguments : List Expr}
    (hk : token.kind = .punctuation .openParen) (hcall : function.call? arguments = some e)
    (h : Gives (argumentList stop tokens) arguments rest) :
    Gives (primary stop (⟨.word function.name, p⟩ :: token :: tokens)) e rest := by
  obtain ⟨hlt, heq⟩ := h
  refine ⟨by simp only [List.length_cons]; omega, ?_⟩
  rw [primary, ofName?_functionName, takeOf?_cons_of_mem (by simp [hk])]
  dsimp only
  rw [heq, ok_bind, callValue, hcall]
  rfl

theorem gives_wanted (hk : keyword? token.kind = none)
    (h : Gives (primary stop (token :: tokens)) e rest) :
    Gives (Parser.filter stop (token :: tokens)) (.text e) rest := by
  obtain ⟨hlt, heq⟩ := h
  refine ⟨hlt, ?_⟩
  rw [Parser.filter, take?_cons_of_eq_none hk]
  dsimp only
  rw [heq]
  rfl

end Primaries

/-! ### What is read of lists -/

section Lists

variable {stop : Position} {tokens behind rest : List Token} {token : Token} {e : Expr}

theorem gives_noArguments (hk : token.kind = .punctuation .closeParen) :
    Gives (argumentList stop (token :: rest)) [] rest := by
  refine ⟨Nat.lt_succ_self _, ?_⟩
  rw [argumentList, takeOf?_cons_of_mem (by simp [hk])]
  rfl

theorem gives_lastArgument (hk : token.kind = .punctuation .closeParen)
    (h : ReadsExpr stop .disjunction e tokens (token :: rest)) :
    Gives (someArguments stop tokens) [e] rest := by
  obtain ⟨hlt, heq⟩ := h.gives_disjunction (stops_cons (by rw [hk]; decide))
  refine ⟨by simp only [List.length_cons] at hlt; omega, ?_⟩
  rw [someArguments, heq, ok_bind]
  dsimp only
  rw [takeOf?_cons_of_mem (by simp [hk])]
  rfl

theorem gives_argument {arguments : List Expr} (hk : token.kind = .punctuation .comma)
    (h : ReadsExpr stop .disjunction e tokens (token :: behind))
    (hmore : Gives (someArguments stop behind) arguments rest) :
    Gives (someArguments stop tokens) (e :: arguments) rest := by
  obtain ⟨hlt, heq⟩ := h.gives_disjunction (stops_cons (by rw [hk]; decide))
  obtain ⟨hltMore, heqMore⟩ := hmore
  refine ⟨by simp only [List.length_cons] at hlt; omega, ?_⟩
  rw [someArguments, heq, ok_bind]
  dsimp only
  rw [takeOf?_cons_of_not_mem (by simp [hk]), takeOf?_cons_of_mem (by simp [hk])]
  dsimp only
  rw [heqMore]
  rfl

theorem reads_noOperands : Reads stop .operands [] rest rest := by
  intro _ hoperand input hlt
  refine ⟨hlt, ?_⟩
  rw [moreOperands, if_neg (by simp [hoperand])]

theorem reads_operand {parts : List Expr} (hstarts : Parser.startsOperand tokens = true)
    (hpart : StopsSum rest → Gives (sum stop tokens) e behind)
    (hparts : Reads stop .operands parts behind rest) :
    Reads stop .operands (e :: parts) tokens rest := by
  intro hrest hoperand input hlt
  obtain ⟨hltPart, heq⟩ := hpart hrest
  obtain ⟨hltParts, heqParts⟩ := hparts hrest hoperand input (Nat.lt_trans hltPart hlt)
  refine ⟨hltParts, ?_⟩
  rw [moreOperands, if_pos hstarts, heq, ok_bind]
  dsimp only
  rw [heqParts]
  rfl

end Lists

/-! ### What is read of every phrase -/

/-- Every phrase is read by its reader from the tokens that spell it. -/
theorem Phrase.Spells.reads {phrase : Phrase} {ks : List TokenKind} {meaning : phrase.Meaning}
    (h : phrase.Spells ks meaning) {tokens rest : List Token} (hspans : Spans ks tokens rest) :
    Reads stop phrase meaning tokens rest := by
  -- Each case cuts the tokens where the spelling does and leaves the parts to their readers.
  induction h generalizing tokens rest with
  | tighter hlevel hspells ih => exact (ih hspans).of_tighter? hlevel hspells hspans
  | or hk _ _ ihLeft ihRight =>
    obtain ⟨middle, hleft, hmore⟩ := hspans.split
    obtain ⟨token, behind, rfl, rfl, hright⟩ := hmore.uncons
    exact reads_or hk (ihLeft hleft) (ihRight hright)
  | and hk _ hspellsRight ihLeft ihRight =>
    obtain ⟨middle, hleft, hmore⟩ := hspans.split
    obtain ⟨token, behind, rfl, rfl, hright⟩ := hmore.uncons
    obtain ⟨k, js, rfl, hopens⟩ := hspellsRight.startsRight
    obtain ⟨word, behind, rfl, rfl, -⟩ := hright.uncons
    exact reads_and hk hopens.not_keyword (ihLeft hleft) (ihRight hright)
  | not hk _ ih =>
    obtain ⟨token, behind, rfl, rfl, hoperand⟩ := hspans.uncons
    exact reads_not hk (ih hoperand)
  | compare hk _ _ ihLeft ihRight =>
    obtain ⟨middle, hleft, hmore⟩ := hspans.split
    obtain ⟨token, behind, rfl, rfl, hright⟩ := hmore.uncons
    exact reads_compare hk (ihLeft hleft) (ihRight hright)
  | concat hne _ hspellsParts ihPart ihParts =>
    obtain ⟨middle, hpart, hmore⟩ := hspans.split
    exact reads_concat hne hspellsParts hmore (ihPart hpart) (ihParts hmore)
  | has _ _ _ ihSource ihFilter ihFilters =>
    obtain ⟨middle, hsource, hmore⟩ := hspans.split
    obtain ⟨token, behind, rfl, hkind, hbehind⟩ := hmore.uncons
    obtain ⟨chain, hfilter, hfilters⟩ := hbehind.split
    exact reads_has hkind hfilters.length_le (ihSource hsource) (ihFilter hfilter)
      (ihFilters hfilters)
  | text value =>
    obtain ⟨⟨kind, position⟩, behind, rfl, rfl, hrest⟩ := hspans.uncons
    cases hrest.eq_of_nil
    exact ⟨Nat.lt_succ_self _, by rw [primary]⟩
  | number value =>
    obtain ⟨⟨kind, position⟩, behind, rfl, rfl, hrest⟩ := hspans.uncons
    cases hrest.eq_of_nil
    exact ⟨Nat.lt_succ_self _, by rw [primary]⟩
  | flag value =>
    obtain ⟨⟨kind, position⟩, behind, rfl, rfl, hrest⟩ := hspans.uncons
    cases hrest.eq_of_nil
    exact gives_flag value
  | label label =>
    obtain ⟨⟨kind, position⟩, behind, rfl, rfl, hrest⟩ := hspans.uncons
    cases hrest.eq_of_nil
    exact gives_label label
  | group _ ih =>
    obtain ⟨⟨kind, position⟩, behind, rfl, rfl, hinner⟩ := hspans.uncons
    obtain ⟨middle, hexpr, hclosing⟩ := hinner.split
    obtain ⟨token, behind, rfl, hkind, hrest⟩ := hclosing.uncons
    cases hrest.eq_of_nil
    exact gives_group hkind (ih hexpr)
  | call hcall _ ih =>
    obtain ⟨⟨kind, position⟩, behind, rfl, rfl, hopened⟩ := hspans.uncons
    obtain ⟨token, behind, rfl, hkind, harguments⟩ := hopened.uncons
    exact gives_call hkind hcall (ih harguments).1
  | noParts =>
    cases hspans.eq_of_nil
    exact reads_noParts
  | part _ hspellsParts ihPart ihParts =>
    obtain ⟨token, behind, rfl, hkind, hbehind⟩ := hspans.uncons
    obtain ⟨middle, hpart, hmore⟩ := hbehind.split
    exact reads_part hkind hspellsParts hmore (ihPart hpart) (ihParts hmore)
  | keyword hk =>
    obtain ⟨token, behind, rfl, rfl, hrest⟩ := hspans.uncons
    cases hrest.eq_of_nil
    exact ⟨Nat.lt_succ_self _, by rw [Parser.filter, take?_cons_of_eq_some hk]⟩
  | wanted hspells ih =>
    have hgives := ih hspans
    obtain ⟨k, js, rfl, hopens⟩ := hspells.startsRight
    obtain ⟨token, behind, rfl, rfl, -⟩ := hspans.uncons
    exact gives_wanted hopens.not_keyword hgives
  | noFilters =>
    intro hrest
    cases hspans.eq_of_nil
    exact hrest
  | @andKeyword ks j k filter filters hj hk _ ih =>
    intro hrest
    obtain ⟨token, behind, rfl, rfl, hbehind⟩ := hspans.uncons
    obtain ⟨word, behind, rfl, rfl, hmore⟩ := hbehind.uncons
    have hchain : filterChain behind = (filters, rest) := ih hmore hrest
    rw [filterChain, hk]
    dsimp only
    rw [if_pos (by simpa using hj), hchain]
  | noArguments =>
    obtain ⟨token, behind, rfl, hkind, hrest⟩ := hspans.uncons
    cases hrest.eq_of_nil
    exact ⟨gives_noArguments hkind, fun h => absurd rfl h⟩
  | lastArgument hspells ih =>
    obtain ⟨middle, hargument, hclosing⟩ := hspans.split
    obtain ⟨token, behind, rfl, hkind, hrest⟩ := hclosing.uncons
    cases hrest.eq_of_nil
    have hgives := gives_lastArgument hkind (ih hargument)
    exact ⟨gives_argumentList hspells hargument hgives, fun _ => hgives⟩
  | argument hne hspells _ ih ihMore =>
    obtain ⟨middle, hargument, hmore⟩ := hspans.split
    obtain ⟨token, behind, rfl, hkind, hbehind⟩ := hmore.uncons
    have hgives := gives_argument hkind (ih hargument) ((ihMore hbehind).2 hne)
    exact ⟨gives_argumentList hspells hargument hgives, fun _ => hgives⟩
  | noOperands =>
    cases hspans.eq_of_nil
    exact reads_noOperands
  | operand hspells hspellsParts ihPart ihParts =>
    obtain ⟨middle, hpart, hmore⟩ := hspans.split
    have hgives := ihPart hpart
    obtain ⟨k, js, rfl, hstarts⟩ := hspells.startsOperand rfl
    obtain ⟨token, behind, rfl, rfl, -⟩ := hpart.uncons
    exact reads_operand hstarts
      (fun hrest => hgives (stops_before_operands hspellsParts hmore hrest)) (ihParts hmore)

end MediaNaming.Grammar
