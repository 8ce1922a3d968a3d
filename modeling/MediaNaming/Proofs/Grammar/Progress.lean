import Mathlib.Logic.Relation
import MediaNaming.Proofs.Grammar.Soundness
import MediaNaming.Proofs.Lexing.Boundaries

/-!
# How readers go forward

Every reader of the grammar goes forward among the tokens and stops where the script ends at the
latest, each round of a loop takes at least one token, and a script is read only if all its tokens
are.
-/

namespace MediaNaming

/-- What stands at each place among the tokens and, last, where the script ends. -/
def TokenList.kinds (list : TokenList) : List (Option TokenKind) :=
  list.tokens.map (fun token => some token.kind) ++ [none]

namespace Grammar

open MediaNaming.Parser

/-! ## Readers -/

/-- Where a reading ends: the tokens that it leaves. -/
def endOf {α : Type} {input : List Token} (result : Except SyntaxError (Taken α input)) :
    Except SyntaxError (List Token) :=
  result.map Taken.rest

/--
The readers, the tokens that they start at, and where they end. The flag says whether a reader takes
a token whenever it succeeds; without it, the reader may end where it has started.
-/
inductive Leaves (stop : Position) :
    List Token → Bool → Except SyntaxError (List Token) → Prop
  | expectMark (mark : Punctuation) (delimiter : Delimiter) (tokens : List Token) :
      Leaves stop tokens true (endOf (expectMark stop mark delimiter tokens))
  | filterChain (tokens : List Token) : Leaves stop tokens false (.ok (filterChain tokens).2)
  | disjunction (tokens : List Token) : Leaves stop tokens true (endOf (disjunction stop tokens))
  | moreDisjuncts (tokens : List Token) (left : Expr) (rest : List Token)
      (h : rest.length < tokens.length) :
      Leaves stop rest false (endOf (moreDisjuncts stop tokens left rest h))
  | conjunction (tokens : List Token) : Leaves stop tokens true (endOf (conjunction stop tokens))
  | moreConjuncts (tokens : List Token) (left : Expr) (rest : List Token)
      (h : rest.length < tokens.length) :
      Leaves stop rest false (endOf (moreConjuncts stop tokens left rest h))
  | negation (tokens : List Token) : Leaves stop tokens true (endOf (negation stop tokens))
  | relation (tokens : List Token) : Leaves stop tokens true (endOf (relation stop tokens))
  | sum (tokens : List Token) : Leaves stop tokens true (endOf (sum stop tokens))
  | moreParts (tokens rest : List Token) (h : rest.length < tokens.length) :
      Leaves stop rest false (endOf (moreParts stop tokens rest h))
  | selection (tokens : List Token) : Leaves stop tokens true (endOf (selection stop tokens))
  | moreFilters (tokens : List Token) (source : Expr) (rest : List Token)
      (h : rest.length < tokens.length) :
      Leaves stop rest false (endOf (moreFilters stop tokens source rest h))
  | filter (tokens : List Token) : Leaves stop tokens true (endOf (filter stop tokens))
  | primary (tokens : List Token) : Leaves stop tokens true (endOf (primary stop tokens))
  | argumentList (tokens : List Token) : Leaves stop tokens true (endOf (argumentList stop tokens))
  | someArguments (tokens : List Token) :
      Leaves stop tokens true (endOf (someArguments stop tokens))
  | operand (tokens : List Token) : Leaves stop tokens true (endOf (operand stop tokens))
  | moreOperands (tokens rest : List Token) (h : rest.length < tokens.length) :
      Leaves stop rest false (endOf (moreOperands stop tokens rest h))
  | operands (tokens : List Token) : Leaves stop tokens true (endOf (operands stop tokens))
  | action (target : Target) (verb : Verb) (tokens : List Token) :
      Leaves stop tokens true (endOf (action stop target verb tokens))
  | targeted (target : Target) (tokens : List Token) :
      Leaves stop tokens true (endOf (targeted stop target tokens))
  | simpleStatement (tokens : List Token) :
      Leaves stop tokens true (endOf (simpleStatement stop tokens))
  | skipSemicolons (tokens : List Token) : Leaves stop tokens false (.ok (skipSemicolons tokens))
  | statement (tokens : List Token) : Leaves stop tokens true (endOf (statement stop tokens))
  | branches (tokens : List Token) : Leaves stop tokens true (endOf (branches stop tokens))
  | otherBranches (tokens rest : List Token) (h : rest.length < tokens.length) :
      Leaves stop rest false (endOf (otherBranches stop tokens rest h))
  | body (tokens : List Token) : Leaves stop tokens true (endOf (body stop tokens))
  | block (tokens : List Token) : Leaves stop tokens true (endOf (block stop tokens))

/-- A reading ends among the tokens, farther on if the flag is set, or fails at one of them. -/
structure Advances (stop : Position) (tokens : List Token) (strict : Bool)
    (result : Except SyntaxError (List Token)) : Prop where
  suffix : ∀ rest, result = .ok rest → rest <:+ tokens
  shorter : ∀ rest, result = .ok rest → strict = true → rest.length < tokens.length
  place : ∀ error, result = .error error → IsPlaceIn stop tokens error.position

section Readers

variable {stop : Position} {α : Type} {tokens input rest : List Token} {strict : Bool}

theorem endOf_eq_ok_iff {result : Except SyntaxError (Taken α input)} :
    endOf result = .ok rest ↔ ∃ taken, result = .ok taken ∧ taken.rest = rest := by
  cases result with
  | error error => simp [endOf, Except.map]
  | ok taken => simp [endOf, Except.map]

theorem endOf_eq_error_iff {result : Except SyntaxError (Taken α input)} {error : SyntaxError} :
    endOf result = .error error ↔ result = .error error := by
  cases result with
  | error other => simp [endOf, Except.map]
  | ok taken => simp [endOf, Except.map]

namespace Advances

theorem skips (h : rest <:+ tokens) : Advances stop tokens false (.ok rest) where
  suffix _ hrest := by
    cases hrest
    exact h
  shorter _ _ hstrict := by cases hstrict
  place _ herror := by cases herror

theorem goesOn {result : Except SyntaxError (Taken α input)} (h : Within stop tokens result) :
    Advances stop tokens false (endOf result) where
  suffix rest hrest := by
    obtain ⟨taken, htaken, rfl⟩ := endOf_eq_ok_iff.mp hrest
    exact h.suffix taken htaken
  shorter _ _ hstrict := by cases hstrict
  place error herror := h.place error (endOf_eq_error_iff.mp herror)

theorem takes {result : Except SyntaxError (Taken α tokens)} (h : Within stop tokens result) :
    Advances stop tokens true (endOf result) where
  suffix := (goesOn h).suffix
  shorter rest hrest _ := by
    obtain ⟨taken, -, rfl⟩ := endOf_eq_ok_iff.mp hrest
    exact taken.shorter
  place := (goesOn h).place

end Advances

theorem Leaves.advances {result : Except SyntaxError (List Token)}
    (h : Leaves stop tokens strict result) : Advances stop tokens strict result := by
  obtain ⟨hdisjunction, hmoreDisjuncts, hconjunction, hmoreConjuncts, hnegation, hrelation, hsum,
    hmoreParts, hselection, hmoreFilters, hfilter, hprimary, hargumentList, hsomeArguments⟩ :=
    within_readers stop
  obtain ⟨hstatement, hbranches, hotherBranches, hbody, hblock⟩ := within_clauses stop
  cases h with
  | expectMark mark delimiter => exact .takes (within_expectMark mark delimiter tokens)
  | filterChain => exact .skips (suffix_filterChain tokens)
  | disjunction => exact .takes (hdisjunction tokens)
  | moreDisjuncts _ _ _ h => exact .goesOn (hmoreDisjuncts _ _ tokens h)
  | conjunction => exact .takes (hconjunction tokens)
  | moreConjuncts _ _ _ h => exact .goesOn (hmoreConjuncts _ _ tokens h)
  | negation => exact .takes (hnegation tokens)
  | relation => exact .takes (hrelation tokens)
  | sum => exact .takes (hsum tokens)
  | moreParts _ _ h => exact .goesOn (hmoreParts _ tokens h)
  | selection => exact .takes (hselection tokens)
  | moreFilters _ _ _ h => exact .goesOn (hmoreFilters _ _ tokens h)
  | filter => exact .takes (hfilter tokens)
  | primary => exact .takes (hprimary tokens)
  | argumentList => exact .takes (hargumentList tokens)
  | someArguments => exact .takes (hsomeArguments tokens)
  | operand => exact .takes (within_operand stop tokens)
  | moreOperands _ _ h => exact .goesOn (within_moreOperands stop _ tokens h)
  | operands => exact .takes (within_operands stop tokens)
  | action target verb => exact .takes (within_action stop target verb tokens)
  | targeted target => exact .takes (within_targeted stop target tokens)
  | simpleStatement => exact .takes (within_simpleStatement stop tokens)
  | skipSemicolons => exact .skips (suffix_skipSemicolons tokens)
  | statement => exact .takes (hstatement tokens)
  | branches => exact .takes (hbranches tokens)
  | otherBranches _ _ h => exact .goesOn (hotherBranches _ tokens h)
  | body => exact .takes (hbody tokens)
  | block => exact .takes (hblock tokens)

/-- The tokens end with the rest, and have more in front of it. -/
def Behind (rest tokens : List Token) : Prop :=
  rest <:+ tokens ∧ rest.length < tokens.length

theorem Behind.trans {middle : List Token} (h₁ : Behind rest middle) (h₂ : Behind middle tokens) :
    Behind rest tokens :=
  ⟨h₁.1.trans h₂.1, h₁.2.trans h₂.2⟩

theorem Behind.of_suffix {middle : List Token} (h₁ : Behind rest middle) (h₂ : middle <:+ tokens) :
    Behind rest tokens :=
  ⟨h₁.1.trans h₂, Nat.lt_of_lt_of_le h₁.2 h₂.length_le⟩

theorem Behind.suffix {middle : List Token} (h₁ : Behind middle tokens) (h₂ : rest <:+ middle) :
    Behind rest tokens :=
  ⟨h₂.trans h₁.1, Nat.lt_of_le_of_lt h₂.length_le h₁.2⟩

theorem behind_of_take? {f : TokenKind → Option α} {taken : Taken α tokens}
    (h : take? f tokens = some taken) : Behind taken.rest tokens :=
  ⟨suffix_of_take? h, taken.shorter⟩

theorem behind_of_takeOf? {kinds : List TokenKind} {taken : Taken Unit tokens}
    (h : takeOf? kinds tokens = some taken) : Behind taken.rest tokens :=
  behind_of_take? h

theorem Leaves.behind {result : Except SyntaxError (Taken α tokens)} {taken : Taken α tokens}
    (hleaves : Leaves stop tokens true (endOf result)) (h : result = .ok taken) :
    Behind taken.rest tokens :=
  ⟨hleaves.advances.suffix _ (endOf_eq_ok_iff.mpr ⟨taken, h, rfl⟩), taken.shorter⟩

end Readers

/-! ## Loops -/

/-- The loops of the readers. -/
inductive Loop where
  | semicolons
  | statements
  | branches
  | operands
  | filters
  | chain
  | arguments
  | disjuncts
  | conjuncts
  | parts
deriving DecidableEq

/-- One round of a loop: where it starts and where the next one does. -/
inductive Round (stop : Position) : Loop → List Token → List Token → Prop
  | semicolon {tokens : List Token} {mark : Taken Unit tokens}
      (hmark : takeOf? [.punctuation .semicolon] tokens = some mark) :
      Round stop .semicolons tokens mark.rest
  | statement {tokens : List Token} {first : Taken Statement (skipSemicolons tokens)}
      (hfirst : statement stop (skipSemicolons tokens) = .ok first) :
      Round stop .statements tokens first.rest
  | branch {tokens : List Token} {word : Taken Unit tokens} {ifWord : Taken Unit word.rest}
      {opened : Taken Unit ifWord.rest} {condition : Taken Expr opened.rest}
      {closed : Taken Unit condition.rest} {body : Taken (List Statement) closed.rest}
      (hword : takeOf? [.word "else"] tokens = some word)
      (hif : takeOf? [.word "if"] word.rest = some ifWord)
      (hopened : expectMark stop .openParen .conditionStart ifWord.rest = .ok opened)
      (hcondition : disjunction stop opened.rest = .ok condition)
      (hclosed : expectMark stop .closeParen .conditionEnd condition.rest = .ok closed)
      (hbody : Parser.body stop closed.rest = .ok body) :
      Round stop .branches tokens body.rest
  | operand {tokens : List Token} {part : Taken Expr tokens}
      (hpart : operand stop tokens = .ok part) : Round stop .operands tokens part.rest
  | filter {tokens : List Token} {word : Taken Unit tokens} {filter : Taken Filter word.rest}
      (hword : takeOf? [.word "has"] tokens = some word)
      (hfilter : Parser.filter stop word.rest = .ok filter) :
      Round stop .filters tokens (filterChain filter.rest).2
  | link {tokens : List Token} {operator : Taken Unit tokens} {filter : Taken Filter operator.rest}
      (hoperator : takeOf? andKinds tokens = some operator)
      (hfilter : take? keyword? operator.rest = some filter) :
      Round stop .chain tokens filter.rest
  | argument {tokens : List Token} {argument : Taken Expr tokens} {comma : Taken Unit argument.rest}
      (hargument : disjunction stop tokens = .ok argument)
      (hcomma : takeOf? [.punctuation .comma] argument.rest = some comma) :
      Round stop .arguments tokens comma.rest
  | disjunct {tokens : List Token} {operator : Taken Unit tokens} {right : Taken Expr operator.rest}
      (hoperator : takeOf? orKinds tokens = some operator)
      (hright : conjunction stop operator.rest = .ok right) :
      Round stop .disjuncts tokens right.rest
  | conjunct {tokens : List Token} {operator : Taken Unit tokens} {right : Taken Expr operator.rest}
      (hoperator : takeOf? andKinds tokens = some operator)
      (hright : negation stop operator.rest = .ok right) :
      Round stop .conjuncts tokens right.rest
  | part {tokens : List Token} {plus : Taken Unit tokens} {part : Taken Expr plus.rest}
      (hplus : takeOf? [.punctuation .plus] tokens = some plus)
      (hpart : selection stop plus.rest = .ok part) : Round stop .parts tokens part.rest

/-- What a loop takes behind its last round. -/
inductive Closes (stop : Position) : Loop → List Token → List Token → Prop
  | done {loop : Loop} (hloop : loop ∉ [Loop.statements, Loop.arguments]) (tokens : List Token) :
      Closes stop loop tokens tokens
  | otherwise {tokens : List Token} {word : Taken Unit tokens}
      {body : Taken (List Statement) word.rest}
      (hword : takeOf? [.word "else"] tokens = some word)
      (hbody : Parser.body stop word.rest = .ok body) : Closes stop .branches tokens body.rest
  | argument {tokens : List Token} {argument : Taken Expr tokens}
      {closed : Taken Unit argument.rest} (hargument : disjunction stop tokens = .ok argument)
      (hclosed : takeOf? [.punctuation .closeParen] argument.rest = some closed) :
      Closes stop .arguments tokens closed.rest
  | block {tokens : List Token} {closed : Taken Unit (skipSemicolons tokens)}
      (hclosed : takeOf? [.punctuation .closeBrace] (skipSemicolons tokens) = some closed) :
      Closes stop .statements tokens closed.rest
  | script {tokens : List Token} (hend : skipSemicolons tokens = []) :
      Closes stop .statements tokens []

/-- The loop goes round by round and ends there. -/
def RunsTo (stop : Position) (loop : Loop) (tokens rest : List Token) : Prop :=
  ∃ last, Relation.ReflTransGen (Round stop loop) tokens last ∧ Closes stop loop last rest

/-- The readers that are loops, the tokens that they start at, and where they end. -/
inductive Loops (stop : Position) : Loop → List Token → Except SyntaxError (List Token) → Prop
  | semicolons (tokens : List Token) : Loops stop .semicolons tokens (.ok (skipSemicolons tokens))
  | block (tokens : List Token) : Loops stop .statements tokens (endOf (block stop tokens))
  | script (tokens : List Token) :
      Loops stop .statements tokens ((statements stop tokens).map fun _ => [])
  | branches (tokens rest : List Token) (h : rest.length < tokens.length) :
      Loops stop .branches rest (endOf (otherBranches stop tokens rest h))
  | operands (tokens rest : List Token) (h : rest.length < tokens.length) :
      Loops stop .operands rest (endOf (moreOperands stop tokens rest h))
  | filters (tokens : List Token) (source : Expr) (rest : List Token)
      (h : rest.length < tokens.length) :
      Loops stop .filters rest (endOf (moreFilters stop tokens source rest h))
  | chain (tokens : List Token) : Loops stop .chain tokens (.ok (filterChain tokens).2)
  | arguments (tokens : List Token) :
      Loops stop .arguments tokens (endOf (someArguments stop tokens))
  | disjuncts (tokens : List Token) (left : Expr) (rest : List Token)
      (h : rest.length < tokens.length) :
      Loops stop .disjuncts rest (endOf (moreDisjuncts stop tokens left rest h))
  | conjuncts (tokens : List Token) (left : Expr) (rest : List Token)
      (h : rest.length < tokens.length) :
      Loops stop .conjuncts rest (endOf (moreConjuncts stop tokens left rest h))
  | parts (tokens rest : List Token) (h : rest.length < tokens.length) :
      Loops stop .parts rest (endOf (moreParts stop tokens rest h))

section Rounds

variable {stop : Position} {loop : Loop} {tokens middle rest : List Token}

/-- A round takes at least one token. -/
theorem Round.behind (h : Round stop loop tokens rest) : Behind rest tokens := by
  cases h with
  | semicolon hmark => exact behind_of_takeOf? hmark
  | statement hfirst =>
    exact ((Leaves.statement _).behind hfirst).of_suffix (suffix_skipSemicolons tokens)
  | branch hword hif hopened hcondition hclosed hbody =>
    have hstart := (behind_of_takeOf? hif).trans (behind_of_takeOf? hword)
    have hcond := ((Leaves.disjunction _).behind hcondition).trans
      ((Leaves.expectMark _ _ _).behind hopened)
    have hend := ((Leaves.body _).behind hbody).trans ((Leaves.expectMark _ _ _).behind hclosed)
    exact hend.trans (hcond.trans hstart)
  | operand hpart => exact (Leaves.operand _).behind hpart
  | filter hword hfilter =>
    have hfirst := ((Leaves.filter _).behind hfilter).trans (behind_of_takeOf? hword)
    exact hfirst.suffix (suffix_filterChain _)
  | link hoperator hfilter => exact (behind_of_take? hfilter).trans (behind_of_takeOf? hoperator)
  | argument hargument hcomma =>
    exact (behind_of_takeOf? hcomma).trans ((Leaves.disjunction _).behind hargument)
  | disjunct hoperator hright =>
    exact ((Leaves.conjunction _).behind hright).trans (behind_of_takeOf? hoperator)
  | conjunct hoperator hright =>
    exact ((Leaves.negation _).behind hright).trans (behind_of_takeOf? hoperator)
  | part hplus hpart => exact ((Leaves.selection _).behind hpart).trans (behind_of_takeOf? hplus)

/-- There are no more rounds than tokens. -/
theorem length_le_of_rounds {places : List (List Token)}
    (h : List.IsChain (Round stop loop) (tokens :: places)) : places.length ≤ tokens.length := by
  induction places generalizing tokens with
  | nil => exact Nat.zero_le _
  | cons middle places ih =>
    obtain ⟨hround, hmore⟩ := List.isChain_cons_cons.mp h
    exact Nat.lt_of_le_of_lt (ih hmore) hround.behind.2

namespace RunsTo

theorem of_closes (h : Closes stop loop tokens rest) : RunsTo stop loop tokens rest :=
  ⟨tokens, .refl, h⟩

theorem head (hround : Round stop loop tokens middle) (h : RunsTo stop loop middle rest) :
    RunsTo stop loop tokens rest := by
  obtain ⟨last, hrounds, hcloses⟩ := h
  exact ⟨last, .head hround hrounds, hcloses⟩

theorem done (hloop : loop ∉ [Loop.statements, Loop.arguments] := by decide) :
    RunsTo stop loop tokens tokens :=
  .of_closes (.done hloop tokens)

end RunsTo

/-! ### Each loop

What follows a round is the same loop again, and the recursion ends because a round leaves fewer
tokens.
-/

theorem runsTo_skipSemicolons (tokens : List Token) :
    RunsTo stop .semicolons tokens (skipSemicolons tokens) := by
  induction tokens with
  | nil => exact .done
  | cons token tokens ih =>
    rw [skipSemicolons, List.dropWhile_cons]
    split
    · next hmark =>
      have hmark : token.kind ∈ [TokenKind.punctuation .semicolon] := by simpa using hmark
      exact .head (.semicolon (takeOf?_cons_of_mem hmark)) ih
    · exact .done

theorem runsTo_filterChain (tokens : List Token) :
    RunsTo stop .chain tokens (filterChain tokens).2 := by
  fun_induction filterChain tokens with
  | case1 operator word tokens filter hfilter hand filters rest hchain ih =>
    rw [hchain] at ih
    have hand : operator.kind ∈ andKinds := by simpa using hand
    exact .head (.link (takeOf?_cons_of_mem hand) (take?_cons_of_eq_some hfilter)) ih
  | _ => exact .done

theorem runsTo_moreOperands {h : rest.length < tokens.length} {taken : Taken (List Expr) tokens}
    (heq : moreOperands stop tokens rest h = .ok taken) :
    RunsTo stop .operands rest taken.rest := by
  fun_induction moreOperands stop tokens rest h generalizing taken with
  | case1 rest h hstarts ih =>
    obtain ⟨part, hpart, hreturn⟩ := bind_eq_ok_iff.mp heq
    obtain ⟨parts, hparts, hreturn⟩ := bind_eq_ok_iff.mp hreturn
    cases hreturn
    have hoperand : operand stop rest = .ok part := by rw [operand, if_pos hstarts, hpart]
    have hmore := ih part hparts
    exact .head (.operand hoperand) hmore
  | case2 =>
    cases heq
    exact .done

theorem runsTo_moreDisjuncts {tokens rest : List Token} {h : rest.length < tokens.length}
    {left : Expr} {taken : Taken Expr tokens}
    (heq : moreDisjuncts stop tokens left rest h = .ok taken) :
    RunsTo stop .disjuncts rest taken.rest := by
  rw [moreDisjuncts] at heq
  split at heq
  · next operator hoperator =>
    obtain ⟨right, hright, hmore⟩ := bind_eq_ok_iff.mp heq
    have hround : Round stop .disjuncts rest right.rest := .disjunct hoperator hright
    have hrounds := runsTo_moreDisjuncts hmore
    exact .head hround hrounds
  · cases heq
    exact .done
termination_by rest.length
decreasing_by exact hround.behind.2

theorem runsTo_moreConjuncts {tokens rest : List Token} {h : rest.length < tokens.length}
    {left : Expr} {taken : Taken Expr tokens}
    (heq : moreConjuncts stop tokens left rest h = .ok taken) :
    RunsTo stop .conjuncts rest taken.rest := by
  rw [moreConjuncts] at heq
  split at heq
  · next operator hoperator =>
    obtain ⟨right, hright, hmore⟩ := bind_eq_ok_iff.mp heq
    have hround : Round stop .conjuncts rest right.rest := .conjunct hoperator hright
    have hrounds := runsTo_moreConjuncts hmore
    exact .head hround hrounds
  · cases heq
    exact .done
termination_by rest.length
decreasing_by exact hround.behind.2

theorem runsTo_moreParts {tokens rest : List Token} {h : rest.length < tokens.length}
    {taken : Taken (List Expr) tokens}
    (heq : moreParts stop tokens rest h = .ok taken) : RunsTo stop .parts rest taken.rest := by
  rw [moreParts] at heq
  split at heq
  · next plus hplus =>
    obtain ⟨part, hpart, hreturn⟩ := bind_eq_ok_iff.mp heq
    obtain ⟨parts, hparts, hreturn⟩ := bind_eq_ok_iff.mp hreturn
    cases hreturn
    have hround : Round stop .parts rest part.rest := .part hplus hpart
    have hrounds := runsTo_moreParts hparts
    exact .head hround hrounds
  · cases heq
    exact .done
termination_by rest.length
decreasing_by exact hround.behind.2

theorem runsTo_moreFilters {tokens rest : List Token} {h : rest.length < tokens.length}
    {source : Expr} {taken : Taken Expr tokens}
    (heq : moreFilters stop tokens source rest h = .ok taken) :
    RunsTo stop .filters rest taken.rest := by
  rw [moreFilters] at heq
  split at heq
  · next word hword =>
    obtain ⟨filter, hfilter, hmore⟩ := bind_eq_ok_iff.mp heq
    have hround : Round stop .filters rest (filterChain filter.rest).2 := .filter hword hfilter
    have hrounds := runsTo_moreFilters hmore
    exact .head hround hrounds
  · cases heq
    exact .done
termination_by rest.length
decreasing_by exact hround.behind.2

theorem runsTo_someArguments {tokens : List Token} {taken : Taken (List Expr) tokens}
    (heq : someArguments stop tokens = .ok taken) : RunsTo stop .arguments tokens taken.rest := by
  rw [someArguments] at heq
  obtain ⟨argument, hargument, heq⟩ := bind_eq_ok_iff.mp heq
  split at heq
  · next closed hclosed =>
    cases heq
    exact .of_closes (.argument hargument hclosed)
  · split at heq
    · next comma hcomma =>
      obtain ⟨arguments, harguments, hreturn⟩ := bind_eq_ok_iff.mp heq
      cases hreturn
      have hround : Round stop .arguments tokens comma.rest := .argument hargument hcomma
      have hrounds := runsTo_someArguments harguments
      exact .head hround hrounds
    · cases heq
termination_by tokens.length
decreasing_by exact hround.behind.2

theorem runsTo_otherBranches {tokens rest : List Token} {h : rest.length < tokens.length}
    {taken : Taken Branches tokens}
    (heq : otherBranches stop tokens rest h = .ok taken) :
    RunsTo stop .branches rest taken.rest := by
  rw [otherBranches] at heq
  split at heq
  · next word hword =>
    dsimp only at heq
    split at heq
    · next ifWord hif =>
      obtain ⟨more, hmore, hreturn⟩ := bind_eq_ok_iff.mp heq
      cases hreturn
      -- The branch goes on with the loop itself, so only what is in front of that is the round.
      rw [branches] at hmore
      obtain ⟨opened, hopened, hmore⟩ := bind_eq_ok_iff.mp hmore
      obtain ⟨condition, hcondition, hmore⟩ := bind_eq_ok_iff.mp hmore
      obtain ⟨closed, hclosed, hmore⟩ := bind_eq_ok_iff.mp hmore
      obtain ⟨body, hbody, hmore⟩ := bind_eq_ok_iff.mp hmore
      obtain ⟨others, hothers, hreturn⟩ := bind_eq_ok_iff.mp hmore
      cases hreturn
      have hround : Round stop .branches rest body.rest :=
        .branch hword hif hopened hcondition hclosed hbody
      have hrounds := runsTo_otherBranches hothers
      exact .head hround hrounds
    · obtain ⟨last, hlast, hreturn⟩ := bind_eq_ok_iff.mp heq
      cases hreturn
      exact .of_closes (.otherwise hword hlast)
  · cases heq
    exact .done
termination_by rest.length
decreasing_by exact hround.behind.2

theorem runsTo_block {tokens : List Token} {taken : Taken (List Statement) tokens}
    (heq : block stop tokens = .ok taken) : RunsTo stop .statements tokens taken.rest := by
  rw [block] at heq
  dsimp only at heq
  split at heq
  · next closed hclosed =>
    cases heq
    exact .of_closes (.block hclosed)
  · split at heq
    · cases heq
    · obtain ⟨first, hfirst, heq⟩ := bind_eq_ok_iff.mp heq
      obtain ⟨more, hmore, hreturn⟩ := bind_eq_ok_iff.mp heq
      cases hreturn
      have hround : Round stop .statements tokens first.rest := .statement hfirst
      have hrounds := runsTo_block hmore
      exact .head hround hrounds
termination_by tokens.length
decreasing_by exact hround.behind.2

/-- The last round of a script is behind all tokens but semicolons. -/
theorem runsTo_statements {program : List Statement}
    (heq : statements stop tokens = .ok program) : RunsTo stop .statements tokens [] := by
  fun_induction statements stop tokens generalizing program with
  | case1 tokens hle hempty =>
    -- Semicolons in front of the end belong to no statement.
    exact .of_closes (.script (List.isEmpty_iff.mp hempty))
  | case2 tokens hle hempty ih =>
    obtain ⟨first, hfirst, heq⟩ := bind_eq_ok_iff.mp heq
    obtain ⟨more, hmore, hreturn⟩ := bind_eq_ok_iff.mp heq
    exact .head (.statement hfirst) (ih first hmore)

theorem Loops.runsTo {result : Except SyntaxError (List Token)}
    (h : Loops stop loop tokens result) (hrest : result = .ok rest) :
    RunsTo stop loop tokens rest := by
  have htaken {α : Type} {input : List Token} {reading : Except SyntaxError (Taken α input)}
      (hruns : ∀ taken, reading = .ok taken → RunsTo stop loop tokens taken.rest)
      (hend : endOf reading = .ok rest) : RunsTo stop loop tokens rest := by
    obtain ⟨taken, hread, rfl⟩ := endOf_eq_ok_iff.mp hend
    exact hruns taken hread
  cases h with
  | semicolons =>
    cases hrest
    exact runsTo_skipSemicolons tokens
  | chain =>
    cases hrest
    exact runsTo_filterChain tokens
  | script =>
    cases hprogram : statements stop tokens with
    | error error =>
      rw [hprogram] at hrest
      cases hrest
    | ok program =>
      rw [hprogram] at hrest
      cases hrest
      exact runsTo_statements hprogram
  | block => exact htaken (fun _ => runsTo_block) hrest
  | branches => exact htaken (fun _ => runsTo_otherBranches) hrest
  | operands => exact htaken (fun _ => runsTo_moreOperands) hrest
  | filters => exact htaken (fun _ => runsTo_moreFilters) hrest
  | arguments => exact htaken (fun _ => runsTo_someArguments) hrest
  | disjuncts => exact htaken (fun _ => runsTo_moreDisjuncts) hrest
  | conjuncts => exact htaken (fun _ => runsTo_moreConjuncts) hrest
  | parts => exact htaken (fun _ => runsTo_moreParts) hrest

end Rounds

/-! ## Places among the tokens -/

section Places

variable {stop : Position} {tokens rest : List Token} {i : Nat}

/-- What the tokens behind a place end with is all that is behind a later place. -/
theorem exists_drop_of_suffix (hi : i ≤ tokens.length) (h : rest <:+ tokens.drop i) :
    ∃ j ≤ tokens.length, i ≤ j ∧ rest = tokens.drop j := by
  have hle := h.length_le
  rw [List.length_drop] at hle
  refine ⟨tokens.length - rest.length, Nat.sub_le _ _, by omega, ?_⟩
  exact List.suffix_iff_eq_drop.mp (h.trans (List.drop_suffix i tokens))

theorem exists_drop_of_behind (h : Behind rest (tokens.drop i)) :
    ∃ j ≤ tokens.length, i < j ∧ rest = tokens.drop j := by
  obtain ⟨hsuffix, hlt⟩ := h
  rw [List.length_drop] at hlt
  obtain ⟨j, hj, -, rfl⟩ := exists_drop_of_suffix (by omega) hsuffix
  rw [List.length_drop] at hlt
  exact ⟨j, hj, by omega, rfl⟩

theorem exists_drop_of_isPlaceIn {place : Position} (hi : i ≤ tokens.length)
    (h : IsPlaceIn stop (tokens.drop i) place) :
    ∃ j ≤ tokens.length, i ≤ j ∧ place = placeOf stop (tokens.drop j) := by
  rcases h with rfl | ⟨token, htoken, rfl⟩
  · exact ⟨tokens.length, Nat.le_refl _, hi, by rw [List.drop_length]; rfl⟩
  · -- The place of a token is the one that it starts, together with what is behind it.
    obtain ⟨before, behind, hdrop⟩ := List.append_of_mem htoken
    obtain ⟨j, hj, hij, hrest⟩ := exists_drop_of_suffix hi ⟨before, hdrop.symm⟩
    exact ⟨j, hj, hij, by rw [← hrest]; rfl⟩

end Places

/--
How a list of tokens is read. A place is the number of tokens in front of it, and a reader that
starts there is given those behind it. The last place is the one where the script ends.
-/
structure GoesForward (list : TokenList) : Prop where
  /-- There is a last place, and it is the only one where no token stands. The end of a script is no
  token but the position `TokenList.stop`, which is where the text ends by `Lexer.Located`; and
  `TokenList.kinds` puts it behind the tokens, so this much holds of every list. -/
  mark : list.kinds ≠ [] ∧ list.kinds.getLast? = some none ∧ list.kinds.count none = 1
  /-- What is looked up at a place or, behind the last one, at that. -/
  current : ∀ i, list.kinds[min i list.tokens.length]? = some (foundIn (list.tokens.drop i))
  /-- One token is taken at a time. -/
  takes : ∀ {α : Type} (i : Nat) (f : TokenKind → Option α) taken,
    take? f (list.tokens.drop i) = some taken →
      i < list.tokens.length ∧ taken.rest = list.tokens.drop (i + 1)
  /-- Readers end at a later place or, unless they take a token, where they start. What is wrong is
  not in front of where they start, either. -/
  leaves : ∀ i ≤ list.tokens.length, ∀ strict result,
    Leaves list.stop (list.tokens.drop i) strict result →
      (∀ rest, result = .ok rest → ∃ j ≤ list.tokens.length,
        i ≤ j ∧ (strict = true → i < j) ∧ rest = list.tokens.drop j) ∧
      ∀ error, result = .error error → ∃ j ≤ list.tokens.length,
        i ≤ j ∧ error.position = placeOf list.stop (list.tokens.drop j)
  /-- Where no token is left, readers that take one fail. -/
  fails : ∀ result, Leaves list.stop [] true result →
    ∃ error, result = .error error ∧ error.position = list.stop
  /-- Loops go round by round. -/
  loops : ∀ i loop result rest, Loops list.stop loop (list.tokens.drop i) result →
    result = .ok rest → RunsTo list.stop loop (list.tokens.drop i) rest
  /-- The next round starts at a later place. -/
  rounds : ∀ i loop rest, Round list.stop loop (list.tokens.drop i) rest →
    ∃ j ≤ list.tokens.length, i < j ∧ rest = list.tokens.drop j
  /-- There are no more rounds than tokens, so there is none where the script ends. -/
  bounded : ∀ i loop places,
    List.IsChain (Round list.stop loop) (list.tokens.drop i :: places) →
      places.length ≤ list.tokens.length - i

theorem getElem?_kinds (list : TokenList) (i : Nat) :
    list.kinds[min i list.tokens.length]? = some (foundIn (list.tokens.drop i)) := by
  rw [TokenList.kinds, foundIn, List.head?_drop]
  by_cases hi : i < list.tokens.length
  · rw [Nat.min_eq_left (Nat.le_of_lt hi), List.getElem?_append_left (by simpa using hi)]
    simp [hi]
  · have hle := Nat.le_of_not_lt hi
    rw [Nat.min_eq_right hle, List.getElem?_append_right (by simp), List.getElem?_eq_none hle]
    simp

theorem goesForward (list : TokenList) : GoesForward list where
  mark := by
    refine ⟨by simp [TokenList.kinds], by simp [TokenList.kinds], ?_⟩
    have hnone : (list.tokens.map fun token => some token.kind).count none = 0 :=
      List.count_eq_zero.mpr (by simp)
    rw [TokenList.kinds, List.count_append, hnone]
    rfl
  current := getElem?_kinds list
  takes i f taken h := by
    obtain ⟨k, -, hspans⟩ := spans_of_take? h
    obtain ⟨token, middle, hdrop, -, hmiddle⟩ := hspans.uncons
    refine ⟨?_, ?_⟩
    · have hlength := congrArg List.length hdrop
      rw [List.length_drop, List.length_cons] at hlength
      omega
    · rw [← hmiddle.eq_of_nil, ← List.tail_drop, hdrop, List.tail_cons]
  leaves i hi strict result h := by
    have hadvances := h.advances
    refine ⟨fun rest hrest => ?_, fun error herror => ?_⟩
    · obtain ⟨j, hj, hij, rfl⟩ := exists_drop_of_suffix hi (hadvances.suffix rest hrest)
      refine ⟨j, hj, hij, fun hstrict => ?_, rfl⟩
      have hlt := hadvances.shorter _ hrest hstrict
      rw [List.length_drop, List.length_drop] at hlt
      omega
    · exact exists_drop_of_isPlaceIn hi (hadvances.place error herror)
  fails result h := by
    cases hresult : result with
    | ok rest => exact absurd (h.advances.shorter rest hresult rfl) (Nat.not_lt_zero _)
    | error error =>
      refine ⟨error, rfl, (h.advances.place error hresult).resolve_right ?_⟩
      simp
  loops i loop result rest h hrest := h.runsTo hrest
  rounds i loop rest h := exists_drop_of_behind h.behind
  bounded i loop places h := by
    rw [← List.length_drop]
    exact length_le_of_rounds h

end Grammar

open Grammar in
/--
A script is cut between characters only, the readers go forward among its tokens and not beyond the
place where it ends, and a program is read only if every token is.
-/
theorem Program.parse_goes_forward (script : String) :
    Lexer.StaysInside script ∧
    (∀ list, Lexer.tokenize script = .ok list → GoesForward list) ∧
    ∀ program, Program.parse script = .ok program → ∃ list ending,
      Lexer.tokenize script = .ok list ∧ RunsTo list.stop .statements list.tokens [] ∧
      (Clause.sequence []).Spells (list.tokens.map Token.kind) program.statements ending := by
  refine ⟨Lexer.staysInside script, fun list _ => goesForward list, fun program h => ?_⟩
  obtain ⟨list, hlist, hrest⟩ := bind_eq_ok_iff.mp h
  obtain ⟨statements, hstatements, hreturn⟩ := bind_eq_ok_iff.mp hrest
  cases hreturn
  obtain ⟨ending, hspells⟩ := spells_of_statements list.stop hstatements
  exact ⟨list, ending, hlist, runsTo_statements hstatements, hspells⟩

open Grammar in
/-- The first script goes through every loop; the second one ends where an operand should start. -/
theorem Program.parse_goes_forward_of_unfinished :
    let script := ";if (not Restricted && true or Censored) \x7b cancel 'é' + Width;; \x7d else " ++
      "if (AnimeTitles has English and Main) set substr('b', 1) else skip"
    let unfinished := "add 'é' +"
    (∃ program list, Program.parse script = .ok program ∧ Lexer.tokenize script = .ok list ∧
      program.statements.length = 1 ∧ RunsTo list.stop .statements list.tokens []) ∧
    ∃ list error, Lexer.tokenize unfinished = .ok list ∧ list.tokens.length = 3 ∧
      Parser.operand list.stop (list.tokens.drop 1) = .error error ∧
      (∃ j ≤ 3, 1 ≤ j ∧ error.position = Parser.placeOf list.stop (list.tokens.drop j)) ∧
      (Lexer.byteIndex unfinished ['\'', ' ', '+']).IsValid unfinished := by
  intro script unfinished
  constructor
  · have hread : (Program.parse script).toOption.map (fun program => program.statements.length) =
        some 1 := by decide +kernel
    obtain ⟨program, hprogram, hlength⟩ := exists_of_toOption_map hread
    obtain ⟨list, ending, hlist, hruns, -⟩ := (parse_goes_forward script).2.2 program hprogram
    exact ⟨program, list, hprogram, hlist, hlength, hruns⟩
  · obtain ⟨hinside, hforward, -⟩ := parse_goes_forward unfinished
    have hlist : Lexer.tokenize unfinished = .ok ⟨[⟨.word "add", ⟨1, 1⟩⟩, ⟨.text "é", ⟨1, 5⟩⟩,
        ⟨.punctuation .plus, ⟨1, 9⟩⟩], ⟨1, 10⟩⟩ := by decide +kernel
    have hend : endOf (Parser.operand ⟨1, 10⟩
        [⟨.text "é", ⟨1, 5⟩⟩, ⟨.punctuation .plus, ⟨1, 9⟩⟩]) =
          .error ⟨.expectedValue none, ⟨1, 10⟩⟩ := by decide +kernel
    have hleaves := (hforward _ hlist).leaves 1 (by decide) true _ (.operand _)
    have hreaches : Lexer.Reaches unfinished _ ['\'', ' ', '+'] :=
      Lexer.reaches_of_append (show unfinished.toList = "add 'é".toList ++ _ by decide +kernel)
    exact ⟨_, _, hlist, rfl, endOf_eq_error_iff.mp hend, hleaves.2 _ hend,
      hinside.boundary _ _ hreaches⟩

end MediaNaming
