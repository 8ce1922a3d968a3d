import MediaNaming.Proofs.Grammar.Tokens

/-!
# Where readers are

Whatever a reader is given, it leaves the last of these tokens, or fails at the place of one of them
or where the script ends.
-/

namespace MediaNaming.Grammar

open MediaNaming.Parser

/-! ## Readings -/

/-- The place of one of the tokens, or of the end of the script. -/
def IsPlaceIn (stop : Position) (tokens : List Token) (place : Position) : Prop :=
  place = stop ∨ ∃ token ∈ tokens, token.position = place

/-- A reading of the tokens goes forward, or fails at a place among them. -/
structure Within (stop : Position) (tokens : List Token) {α : Type} {input : List Token}
    (result : Except SyntaxError (Taken α input)) : Prop where
  suffix : ∀ taken, result = .ok taken → taken.rest <:+ tokens
  place : ∀ error, result = .error error → IsPlaceIn stop tokens error.position

section Steps

variable {stop : Position} {tokens rest input : List Token} {α β : Type}

theorem isPlaceIn_placeOf : IsPlaceIn stop tokens (placeOf stop tokens) := by
  cases tokens with
  | nil => exact .inl rfl
  | cons token tokens => exact .inr ⟨token, List.mem_cons_self, rfl⟩

theorem IsPlaceIn.of_suffix {place : Position} (h : IsPlaceIn stop rest place)
    (hsuffix : rest <:+ tokens) : IsPlaceIn stop tokens place :=
  h.imp_right fun ⟨token, htoken, hplace⟩ => ⟨token, hsuffix.subset htoken, hplace⟩

namespace Within

theorem ok {taken : Taken α input} (h : taken.rest <:+ tokens) :
    Within stop tokens (.ok taken) where
  suffix other hother := by
    cases hother
    exact h
  place error herror := by cases herror

theorem failAt (cause : Option TokenKind → SyntaxCause) :
    Within stop tokens (Parser.failAt stop tokens cause : Except SyntaxError (Taken α input)) where
  suffix taken htaken := by cases htaken
  place error herror := by
    cases herror
    exact isPlaceIn_placeOf

variable {result : Except SyntaxError (Taken α input)}

/-- A reading of the last tokens is one of all of them. -/
theorem after (hsuffix : rest <:+ tokens) (h : Within stop rest result) :
    Within stop tokens result where
  suffix taken htaken := (h.suffix taken htaken).trans hsuffix
  place error herror := (h.place error herror).of_suffix hsuffix

/-- What goes on with a value fails at a place among the same tokens. -/
theorem bind_value {x : Except SyntaxError β} {f : β → Except SyntaxError (Taken α input)}
    (hx : ∀ error, x = .error error → IsPlaceIn stop tokens error.position)
    (hf : ∀ b, Within stop tokens (f b)) : Within stop tokens (x >>= f) where
  suffix taken htaken := by
    obtain ⟨b, -, htaken⟩ := bind_eq_ok_iff.mp htaken
    exact (hf b).suffix taken htaken
  place error herror := by
    rcases bind_eq_error_iff.mp herror with herror | ⟨b, -, herror⟩
    · exact hx error herror
    · exact (hf b).place error herror

section Bind

variable {inner : List Token} {x : Except SyntaxError (Taken β inner)}
  {f : Taken β inner → Except SyntaxError (Taken α input)}

theorem bind (hx : Within stop tokens x)
    (hf : ∀ taken, taken.rest <:+ tokens → Within stop tokens (f taken)) :
    Within stop tokens (x >>= f) where
  suffix taken htaken := by
    obtain ⟨first, hfirst, htaken⟩ := bind_eq_ok_iff.mp htaken
    exact (hf first (hx.suffix first hfirst)).suffix taken htaken
  place error herror := by
    rcases bind_eq_error_iff.mp herror with herror | ⟨first, hfirst, herror⟩
    · exact hx.place error herror
    · exact (hf first (hx.suffix first hfirst)).place error herror

/-- What goes on where a reading has ended goes forward from there. -/
theorem next (hx : Within stop tokens x) (hf : ∀ taken, Within stop taken.rest (f taken)) :
    Within stop tokens (x >>= f) :=
  hx.bind fun taken hsuffix => (hf taken).after hsuffix

/-- What is made of a value leaves what the value has left. -/
theorem made {g : Taken β inner → Taken α input} (hx : Within stop tokens x)
    (hg : ∀ taken, (g taken).rest = taken.rest) :
    Within stop tokens (x >>= fun taken => .ok (g taken)) :=
  hx.next fun taken => .ok (by simp [hg])

end Bind

end Within

theorem suffix_of_take? {f : TokenKind → Option α} {taken : Taken α tokens}
    (h : take? f tokens = some taken) : taken.rest <:+ tokens := by
  obtain ⟨k, -, used, hused, -⟩ := spans_of_take? h
  exact ⟨used, hused.symm⟩

theorem suffix_of_takeOf? {kinds : List TokenKind} {taken : Taken Unit tokens}
    (h : takeOf? kinds tokens = some taken) : taken.rest <:+ tokens :=
  suffix_of_take? h

theorem suffix_filterChain (tokens : List Token) : (filterChain tokens).2 <:+ tokens := by
  fun_induction filterChain tokens with
  | case1 and word tokens filter hfilter hand filters rest hchain ih =>
    rw [hchain] at ih
    exact ih.trans ⟨[and, word], rfl⟩
  | _ => exact List.suffix_refl _

theorem within_expectMark (mark : Punctuation) (delimiter : Delimiter) (tokens : List Token) :
    Within stop tokens (expectMark stop mark delimiter tokens) := by
  unfold expectMark
  split
  · next taken htaken => exact .ok (suffix_of_takeOf? htaken)
  · exact .failAt _

/-- What is not a value fails at its own place. -/
theorem position_of_wordValue {name : String} {position : Position} {error : SyntaxError}
    (h : wordValue name position = .error error) : error.position = position := by
  unfold wordValue at h
  grind

theorem position_of_callValue {function : Function} {position : Position} {arguments : List Expr}
    {error : SyntaxError} (h : callValue function position arguments = .error error) :
    error.position = position := by
  unfold callValue at h
  split at h
  · cases h
  · cases h
    rfl

end Steps

/-! ## Expressions -/

variable (stop : Position)

theorem within_word {name : String} {position : Position} {behind : List Token}
    (hcall : ∀ function opened, Function.ofName? name = some function →
      takeOf? [.punctuation .openParen] behind = some opened → False) :
    Within stop (⟨.word name, position⟩ :: behind)
      (primary stop (⟨.word name, position⟩ :: behind)) := by
  rw [primary]
  split
  · next function opened hfunction hopened => exact (hcall function opened hfunction hopened).elim
  · exact .bind_value (fun error herror => .inr ⟨_, List.mem_cons_self,
      (position_of_wordValue herror).symm⟩) fun _ => .ok (List.suffix_cons _ _)

theorem within_call {name : String} {position : Position} {behind : List Token}
    {function : Function} {opened : Taken Unit behind}
    (hfunction : Function.ofName? name = some function)
    (hopened : takeOf? [.punctuation .openParen] behind = some opened)
    (ih : Within stop opened.rest (argumentList stop opened.rest)) :
    Within stop (⟨.word name, position⟩ :: behind)
      (primary stop (⟨.word name, position⟩ :: behind)) := by
  rw [primary, hfunction, hopened]
  have hbehind :=
    (suffix_of_takeOf? hopened).trans (List.suffix_cons ⟨.word name, position⟩ behind)
  -- The number of arguments is known behind them only, but what is wrong is the name in front.
  exact (ih.after hbehind).bind fun arguments hsuffix =>
    .bind_value (fun error herror => .inr ⟨_, List.mem_cons_self,
      (position_of_callValue herror).symm⟩) fun _ => .ok hsuffix

/-- All the readers of expressions go forward, or fail at a place among the given tokens. -/
theorem within_readers :
    (∀ tokens, Within stop tokens (disjunction stop tokens)) ∧
    (∀ tokens left rest h, Within stop rest (moreDisjuncts stop tokens left rest h)) ∧
    (∀ tokens, Within stop tokens (conjunction stop tokens)) ∧
    (∀ tokens left rest h, Within stop rest (moreConjuncts stop tokens left rest h)) ∧
    (∀ tokens, Within stop tokens (negation stop tokens)) ∧
    (∀ tokens, Within stop tokens (relation stop tokens)) ∧
    (∀ tokens, Within stop tokens (sum stop tokens)) ∧
    (∀ tokens rest h, Within stop rest (moreParts stop tokens rest h)) ∧
    (∀ tokens, Within stop tokens (selection stop tokens)) ∧
    (∀ tokens source rest h, Within stop rest (moreFilters stop tokens source rest h)) ∧
    (∀ tokens, Within stop tokens (filter stop tokens)) ∧
    (∀ tokens, Within stop tokens (primary stop tokens)) ∧
    (∀ tokens, Within stop tokens (argumentList stop tokens)) ∧
    (∀ tokens, Within stop tokens (someArguments stop tokens)) := by
  -- The induction follows the recursion of the readers, from each to those that it calls.
  refine disjunction.mutual_induct _ _ _ _ _ _ _ _ _ _ _ _ _ _
    ?disjunction ?disjunct ?lastDisjunct ?conjunction ?conjunct ?lastConjunct ?negated ?negation
    ?relation ?sum ?part ?lastPart ?selection ?has ?lastHas ?keyword ?wanted ?text ?number ?group
    ?call ?word ?other ?noArguments ?arguments ?someArguments
  case disjunction =>
    intro tokens ihLeft ihMore
    rw [disjunction]
    exact ihLeft.next ihMore
  case disjunct =>
    intro tokens left rest h operator hoperator hlt ihRight ihMore
    rw [moreDisjuncts, hoperator]
    exact .after (suffix_of_take? hoperator) (ihRight.next ihMore)
  case lastDisjunct =>
    intro tokens left rest h hnone
    rw [moreDisjuncts, hnone]
    exact .ok (List.suffix_refl rest)
  case conjunction =>
    intro tokens ihLeft ihMore
    rw [conjunction]
    exact ihLeft.next ihMore
  case conjunct =>
    intro tokens left rest h operator hoperator hlt ihRight ihMore
    rw [moreConjuncts, hoperator]
    exact .after (suffix_of_take? hoperator) (ihRight.next ihMore)
  case lastConjunct =>
    intro tokens left rest h hnone
    rw [moreConjuncts, hnone]
    exact .ok (List.suffix_refl rest)
  case negated =>
    intro tokens operator hoperator hlt ih
    rw [negation, hoperator]
    exact .after (suffix_of_takeOf? hoperator) (ih.made fun _ => rfl)
  case negation =>
    intro tokens hnone ih
    rw [negation, hnone]
    exact ih
  case relation =>
    intro tokens ihLeft ihRight
    rw [relation]
    refine ihLeft.next fun left => ?_
    split
    · next operator hoperator =>
      exact .after (suffix_of_take? hoperator) ((ihRight left operator).made fun _ => rfl)
    · exact .ok (List.suffix_refl left.rest)
  case sum =>
    intro tokens ihPart ihMore
    rw [sum]
    exact ihPart.next fun part => (ihMore part).made fun _ => rfl
  case part =>
    intro tokens rest h plus hplus hlt ihPart ihMore
    rw [moreParts, hplus]
    exact .after (suffix_of_takeOf? hplus)
      (ihPart.next fun part => (ihMore part).made fun _ => rfl)
  case lastPart =>
    intro tokens rest h hnone
    rw [moreParts, hnone]
    exact .ok (List.suffix_refl rest)
  case selection =>
    intro tokens ihSource ihMore
    rw [selection]
    exact ihSource.next ihMore
  case has =>
    intro tokens source rest h has hhas hlt ihFilter ihMore
    rw [moreFilters, hhas]
    exact .after (suffix_of_takeOf? hhas)
      (ihFilter.next fun filter => .after (suffix_filterChain filter.rest) (ihMore filter))
  case lastHas =>
    intro tokens source rest h hnone
    rw [moreFilters, hnone]
    exact .ok (List.suffix_refl rest)
  case keyword =>
    intro tokens filter hfilter
    rw [Parser.filter, hfilter]
    exact .ok (suffix_of_take? hfilter)
  case wanted =>
    intro tokens hnone ih
    rw [Parser.filter, hnone]
    exact ih.made fun _ => rfl
  case text =>
    intro value position behind
    rw [primary]
    exact .ok (List.suffix_cons _ behind)
  case number =>
    intro value position behind
    rw [primary]
    exact .ok (List.suffix_cons _ behind)
  case group =>
    intro position behind ih
    rw [primary]
    exact .after (List.suffix_cons _ behind)
      (ih.next fun inner => (within_expectMark _ _ inner.rest).made fun _ => rfl)
  case call =>
    intro name position behind function opened hopened hfunction hlt ih
    exact within_call stop hfunction hopened ih
  case word =>
    intro name position behind hcall
    exact within_word stop hcall
  case other =>
    intro tokens htext hnumber hgroup hword
    rw [primary]
    · exact .failAt _
    all_goals assumption
  case noArguments =>
    intro tokens closed hclosed
    rw [argumentList, hclosed]
    exact .ok (suffix_of_takeOf? hclosed)
  case arguments =>
    intro tokens hnone ih
    rw [argumentList, hnone]
    exact ih
  case someArguments =>
    intro tokens ihArgument ihMore
    rw [someArguments]
    refine ihArgument.next fun argument => ?_
    split
    · next closed hclosed => exact .ok (suffix_of_takeOf? hclosed)
    · split
      · next comma hcomma =>
        exact .after (suffix_of_takeOf? hcomma) ((ihMore argument comma).made fun _ => rfl)
      · exact .failAt _

theorem within_disjunction (tokens : List Token) : Within stop tokens (disjunction stop tokens) :=
  (within_readers stop).1 tokens

theorem within_sum (tokens : List Token) : Within stop tokens (sum stop tokens) :=
  (within_readers stop).2.2.2.2.2.2.1 tokens

/-! ## Operands -/

theorem within_operand (tokens : List Token) : Within stop tokens (operand stop tokens) := by
  unfold operand
  split
  · exact within_sum stop tokens
  · exact .failAt _

theorem within_moreOperands (tokens rest : List Token) (h : rest.length < tokens.length) :
    Within stop rest (moreOperands stop tokens rest h) := by
  fun_induction moreOperands stop tokens rest h with
  | case1 rest h hstart ih =>
    exact (within_sum stop rest).next fun part => (ih part).made fun _ => rfl
  | case2 rest h hstart => exact .ok (List.suffix_refl rest)

theorem within_operands (tokens : List Token) : Within stop tokens (operands stop tokens) :=
  (within_operand stop tokens).next fun part =>
    (within_moreOperands stop tokens part.rest part.shorter).made fun _ => rfl

/-! ## Simple statements -/

theorem within_action (target : Target) (verb : Verb) (tokens : List Token) :
    Within stop tokens (action stop target verb tokens) := by
  cases verb with
  | set => exact (within_operands stop tokens).made fun _ => rfl
  | add => exact (within_operands stop tokens).made fun _ => rfl
  | replace =>
    exact (within_operand stop tokens).next fun pattern =>
      (within_operand stop pattern.rest).made fun _ => rfl

theorem within_targeted (target : Target) (tokens : List Token) :
    Within stop tokens (targeted stop target tokens) := by
  unfold targeted
  split
  · next verb hverb =>
    exact .after (suffix_of_take? hverb)
      ((within_action stop target verb.value verb.rest).made fun _ => rfl)
  · split
    · exact (within_operands stop tokens).made fun _ => rfl
    · exact .failAt _

theorem within_simpleStatement (tokens : List Token) :
    Within stop tokens (simpleStatement stop tokens) := by
  unfold simpleStatement
  split
  · exact (within_operands stop tokens).made fun _ => rfl
  · split
    · next target htarget =>
      exact .after (suffix_of_take? htarget)
        ((within_targeted stop target.value target.rest).made fun _ => rfl)
    · next verb hnone hverb =>
      exact .after (suffix_of_take? hverb)
        ((within_action stop .unnamed verb.value verb.rest).made fun _ => rfl)
    · split
      · next skip hskip => exact .ok (suffix_of_takeOf? hskip)
      · next cancel hnone hcancel =>
        exact .after (suffix_of_takeOf? hcancel)
          ((within_moreOperands stop tokens cancel.rest cancel.shorter).made fun _ => rfl)
      · exact .failAt _

/-! ## Clauses -/

theorem suffix_skipSemicolons (tokens : List Token) : skipSemicolons tokens <:+ tokens :=
  List.dropWhile_suffix _

/-- All the readers of clauses go forward, or fail at a place among the given tokens. -/
theorem within_clauses :
    (∀ tokens, Within stop tokens (statement stop tokens)) ∧
    (∀ tokens, Within stop tokens (branches stop tokens)) ∧
    (∀ tokens rest h, Within stop rest (otherBranches stop tokens rest h)) ∧
    (∀ tokens, Within stop tokens (body stop tokens)) ∧
    (∀ tokens, Within stop tokens (block stop tokens)) := by
  refine statement.mutual_induct _ _ _ _ _ ?choose ?action ?branch ?otherIf ?otherwise ?done
    ?braces ?single ?finish ?unterminated ?next
  case choose =>
    intro tokens word hword hlt ih
    rw [statement, hword]
    exact .after (suffix_of_takeOf? hword) (ih.made fun _ => rfl)
  case action =>
    intro tokens hnone
    rw [statement, hnone]
    exact (within_simpleStatement stop tokens).next fun simple =>
      .ok (suffix_skipSemicolons simple.rest)
  case branch =>
    intro tokens ihBody ihRest
    rw [branches]
    exact (within_expectMark _ _ tokens).next fun opened =>
      (within_disjunction stop opened.rest).next fun condition =>
      (within_expectMark _ _ condition.rest).next fun closed =>
      (ihBody opened condition closed).next fun body =>
      (ihRest opened condition closed body).made fun _ => rfl
  case otherIf =>
    intro tokens rest h word hword hlt ifWord hif hltIf ih
    rw [otherBranches, hword]
    dsimp only
    rw [hif]
    exact .after ((suffix_of_takeOf? hif).trans (suffix_of_takeOf? hword)) (ih.made fun _ => rfl)
  case otherwise =>
    intro tokens rest h word hword hlt hif ih
    rw [otherBranches, hword]
    dsimp only
    rw [hif]
    exact .after (suffix_of_takeOf? hword) (ih.made fun _ => rfl)
  case done =>
    intro tokens rest h hnone
    rw [otherBranches, hnone]
    exact .ok (List.suffix_refl rest)
  case braces =>
    intro tokens opened hopened hlt ih
    rw [body, hopened]
    exact .after (suffix_of_takeOf? hopened) (ih.made fun _ => rfl)
  case single =>
    intro tokens hnone ih
    rw [body, hnone]
    exact ih.made fun _ => rfl
  case finish =>
    intro tokens hle closed hclosed
    rw [block, hclosed]
    exact .ok ((suffix_of_takeOf? hclosed).trans (suffix_skipSemicolons tokens))
  case unterminated =>
    intro tokens hle hnone hempty
    rw [block, hnone]
    dsimp only
    rw [if_pos hempty]
    exact .after List.nil_suffix (.failAt _)
  case next =>
    intro tokens hle hnone hsome ihFirst ihMore
    rw [block, hnone]
    dsimp only
    rw [if_neg hsome]
    exact .after (suffix_skipSemicolons tokens)
      (ihFirst.next fun first => (ihMore first).made fun _ => rfl)

theorem within_statement (tokens : List Token) : Within stop tokens (statement stop tokens) :=
  (within_clauses stop).1 tokens

/-! ## Scripts -/

/-- A script that cannot be read fails at one of its tokens, or where it ends. -/
theorem isPlaceIn_of_statements {tokens : List Token} {error : SyntaxError}
    (h : statements stop tokens = .error error) : IsPlaceIn stop tokens error.position := by
  fun_induction statements stop tokens with
  | case1 tokens hle hempty => cases h
  | case2 tokens hle hempty ih =>
    have hfirst := within_statement stop (skipSemicolons tokens)
    refine IsPlaceIn.of_suffix ?_ (suffix_skipSemicolons tokens)
    rcases bind_eq_error_iff.mp h with h | ⟨first, hread, h⟩
    · exact hfirst.place error h
    · rcases bind_eq_error_iff.mp h with h | ⟨more, -, hreturn⟩
      · exact (ih first h).of_suffix (hfirst.suffix first hread)
      · cases hreturn

end MediaNaming.Grammar
