import MediaNaming.Proofs.Grammar.Statements
import MediaNaming.Proofs.Grammar.Tokens

/-!
# What is read follows the grammar

Whenever the parser reads an expression, a statement or a script, the tokens that it took spell it.
-/

namespace MediaNaming.Grammar

open MediaNaming.Parser

/-- If the reading succeeds, the tokens from `tokens` up to what is left spell its value. -/
def Sound (phrase : Phrase) (tokens : List Token) {input : List Token}
    (result : Except SyntaxError (Taken phrase.Meaning input)) : Prop :=
  ∀ taken, result = .ok taken →
    ∃ ks, Spans ks tokens taken.rest ∧ phrase.Spells ks taken.value

/-- The same of a reading that goes on behind an expression `left`, of which the operators that
follow make an expression at the level. -/
def SoundBehind (level : Level) (tokens : List Token) (left : Expr) (rest : List Token)
    {input : List Token} (result : Except SyntaxError (Taken Expr input)) : Prop :=
  ∀ ks, Spans ks tokens rest → (Phrase.expr level).Spells ks left →
    Sound (.expr level) tokens result

/-! ## Filters -/

theorem spans_filterChain (tokens : List Token) :
    ∃ ks, Spans ks tokens (filterChain tokens).2 ∧
      Phrase.moreFilters.Spells ks (filterChain tokens).1 := by
  fun_induction filterChain tokens with
  | case1 and word tokens filter hkeyword hand filters rest hchain ih =>
    obtain ⟨ks, hspans, hspells⟩ := ih
    rw [hchain] at hspans hspells
    exact ⟨_, hspans.cons.cons, .andKeyword (by simpa using hand) hkeyword hspells⟩
  | case2 => exact ⟨[], .nil _, .noFilters⟩
  | case3 => exact ⟨[], .nil _, .noFilters⟩
  | case4 => exact ⟨[], .nil _, .noFilters⟩

/-! ## Calls -/

theorem call_of_callValue {function : Function} {position : Position} {arguments : List Expr}
    {e : Expr} (h : callValue function position arguments = .ok e) :
    function.call? arguments = some e := by
  simp only [callValue] at h
  split at h
  · next e' he' => cases h; exact he'
  · cases h

/-! ## Expressions -/

variable (stop : Position)

theorem spans_of_expectMark {mark : Punctuation} {delimiter : Delimiter} {tokens : List Token}
    {taken : Taken Unit tokens} (h : expectMark stop mark delimiter tokens = .ok taken) :
    Spans [.punctuation mark] tokens taken.rest := by
  simp only [expectMark] at h
  split at h
  · next taken' htaken' =>
    cases h
    exact spans_of_takeOf?_singleton htaken'
  · cases h

/-! ### Left operands -/

section Behind

variable {level inner : Level} {tokens rest : List Token} {left : Expr}

/-- An expression of the next tighter level is read first, then the operators that follow it. -/
theorem sound_of_tighter {result : Except SyntaxError (Taken Expr tokens)}
    {more : Taken Expr tokens → Except SyntaxError (Taken Expr tokens)}
    (hlevel : level.tighter? = some inner) (hleft : Sound (.expr inner) tokens result)
    (hmore : ∀ left, SoundBehind level tokens left.value left.rest (more left)) :
    Sound (.expr level) tokens (result >>= more) := by
  intro taken htaken
  obtain ⟨left, heq, htaken⟩ := bind_eq_ok_iff.mp htaken
  obtain ⟨ks, hspans, hspells⟩ := hleft left heq
  exact hmore left ks hspans (.tighter hlevel hspells) taken htaken

/-- Behind an operator its right operand is read, then the operators that follow both. -/
theorem soundBehind_operator {kinds : List TokenKind} {make : Expr → Expr}
    {operator : Taken Unit rest} {result : Except SyntaxError (Taken Expr operator.rest)}
    {more : Taken Expr operator.rest → Except SyntaxError (Taken Expr tokens)}
    (hoperator : takeOf? kinds rest = some operator)
    (hmake : ∀ {ks js k right}, k ∈ kinds → (Phrase.expr level).Spells ks left →
      (Phrase.expr inner).Spells js right → (Phrase.expr level).Spells (ks ++ k :: js) (make right))
    (hright : Sound (.expr inner) operator.rest result)
    (hmore : ∀ right, SoundBehind level tokens (make right.value) right.rest (more right)) :
    SoundBehind level tokens left rest (result >>= more) := by
  intro ks hspans hspells taken htaken
  obtain ⟨right, heq, htaken⟩ := bind_eq_ok_iff.mp htaken
  obtain ⟨k, hk, hspansOperator⟩ := spans_of_takeOf? hoperator
  obtain ⟨js, hspansRight, hspellsRight⟩ := hright right heq
  exact hmore right _ (hspans.append (hspansOperator.append hspansRight))
    (hmake hk hspells hspellsRight) taken htaken

theorem soundBehind_last (h : rest.length < tokens.length) :
    SoundBehind level tokens left rest (.ok ⟨left, rest, h⟩) := by
  intro ks hspans hspells taken htaken
  cases htaken
  exact ⟨ks, hspans, hspells⟩

end Behind

/-! ### Operators -/

section Operators

variable {stop : Position} {tokens rest : List Token}

theorem sound_negated {operator : Taken Unit tokens}
    (hoperator : takeOf? notKinds tokens = some operator)
    (ih : Sound (.expr .negation) operator.rest (negation stop operator.rest)) :
    Sound (.expr .negation) tokens (negation stop tokens) := by
  intro taken htaken
  rw [negation, hoperator] at htaken
  obtain ⟨operand, hoperand, hreturn⟩ := bind_eq_ok_iff.mp htaken
  cases hreturn
  obtain ⟨k, hk, hspansOperator⟩ := spans_of_takeOf? hoperator
  obtain ⟨ks, hspans, hspells⟩ := ih operand hoperand
  exact ⟨_, hspansOperator.append hspans, .not hk hspells⟩

theorem sound_relation (ihLeft : Sound (.expr .sum) tokens (sum stop tokens))
    (ihRight : ∀ (left : Taken Expr tokens) (operator : Taken Comparison left.rest),
      Sound (.expr .sum) operator.rest (sum stop operator.rest)) :
    Sound (.expr .relation) tokens (relation stop tokens) := by
  intro taken htaken
  rw [relation] at htaken
  obtain ⟨left, hleft, hrest⟩ := bind_eq_ok_iff.mp htaken
  obtain ⟨ks, hspans, hspells⟩ := ihLeft left hleft
  split at hrest
  · next operator hoperator =>
    obtain ⟨right, hright, hreturn⟩ := bind_eq_ok_iff.mp hrest
    cases hreturn
    obtain ⟨k, hk, hspansOperator⟩ := spans_of_take? hoperator
    obtain ⟨js, hspansRight, hspellsRight⟩ := ihRight left operator right hright
    exact ⟨_, hspans.append (hspansOperator.append hspansRight),
      .compare hk hspells hspellsRight⟩
  · cases hrest
    exact ⟨ks, hspans, .tighter rfl hspells⟩

theorem sound_parts (ihPart : Sound (.expr .selection) tokens (selection stop tokens))
    (ihMore : ∀ part : Taken Expr tokens,
      Sound .moreParts part.rest (moreParts stop tokens part.rest part.shorter)) :
    Sound (.expr .sum) tokens (sum stop tokens) := by
  intro taken htaken
  rw [sum] at htaken
  obtain ⟨part, hpart, hrest⟩ := bind_eq_ok_iff.mp htaken
  obtain ⟨parts, hparts, hreturn⟩ := bind_eq_ok_iff.mp hrest
  cases hreturn
  obtain ⟨ks, hspans, hspells⟩ := ihPart part hpart
  obtain ⟨js, hspansParts, hspellsParts⟩ := ihMore part parts hparts
  refine ⟨ks ++ js, hspans.append hspansParts, ?_⟩
  rw [Taken.map_value]
  split
  · next hnil =>
    -- Without further parts there are no further tokens either.
    rw [hnil] at hspellsParts
    cases hspellsParts
    rw [List.append_nil]
    exact .tighter rfl hspells
  · next hcons => exact .concat hcons hspells hspellsParts

theorem sound_part {plus : Taken Unit rest} (h : rest.length < tokens.length)
    (hplus : takeOf? [.punctuation .plus] rest = some plus)
    (ihPart : Sound (.expr .selection) plus.rest (selection stop plus.rest))
    (ihMore : ∀ (part : Taken Expr plus.rest) (h : part.rest.length < tokens.length),
      Sound .moreParts part.rest (moreParts stop tokens part.rest h)) :
    Sound .moreParts rest (moreParts stop tokens rest h) := by
  intro taken htaken
  rw [moreParts, hplus] at htaken
  obtain ⟨part, hpart, hrest⟩ := bind_eq_ok_iff.mp htaken
  obtain ⟨parts, hparts, hreturn⟩ := bind_eq_ok_iff.mp hrest
  cases hreturn
  obtain ⟨ks, hspans, hspells⟩ := ihPart part hpart
  obtain ⟨js, hspansParts, hspellsParts⟩ := ihMore part _ parts hparts
  have hspansPlus := spans_of_takeOf?_singleton hplus
  exact ⟨.punctuation .plus :: (ks ++ js), hspansPlus.append (hspans.append hspansParts),
    .part hspells hspellsParts⟩

theorem soundBehind_has {source : Expr} {has : Taken Unit rest} (h : rest.length < tokens.length)
    (hhas : takeOf? [.word "has"] rest = some has)
    (ihFilter : Sound .filter has.rest (filter stop has.rest))
    (ihMore : ∀ (filter : Taken Filter has.rest)
      (h : (filterChain filter.rest).2.length < tokens.length),
      SoundBehind .selection tokens (.has source (filter.value :: (filterChain filter.rest).1))
        (filterChain filter.rest).2 (moreFilters stop tokens
          (.has source (filter.value :: (filterChain filter.rest).1))
          (filterChain filter.rest).2 h)) :
    SoundBehind .selection tokens source rest (moreFilters stop tokens source rest h) := by
  intro ks hspans hspells taken htaken
  rw [moreFilters, hhas] at htaken
  obtain ⟨filter, hfilter, hmore⟩ := bind_eq_ok_iff.mp htaken
  obtain ⟨js, hspansFilter, hspellsFilter⟩ := ihFilter filter hfilter
  obtain ⟨is, hspansChain, hspellsChain⟩ := spans_filterChain filter.rest
  have hspansHas := spans_of_takeOf?_singleton hhas
  exact ihMore filter _ (ks ++ .word "has" :: (js ++ is))
    (hspans.append (hspansHas.append (hspansFilter.append hspansChain)))
    (.has hspells hspellsFilter hspellsChain) taken hmore

theorem sound_wanted (hnone : take? keyword? tokens = none)
    (ih : Sound (.expr .primary) tokens (primary stop tokens)) :
    Sound .filter tokens (filter stop tokens) := by
  intro taken htaken
  rw [Parser.filter, hnone] at htaken
  obtain ⟨wanted, hwanted, hreturn⟩ := bind_eq_ok_iff.mp htaken
  cases hreturn
  obtain ⟨ks, hspans, hspells⟩ := ih wanted hwanted
  exact ⟨ks, hspans, .wanted hspells⟩

end Operators

/-! ### Operands without operators -/

section Primaries

variable {stop position : Position} {name : String} {tokens behind : List Token}

theorem sound_group (ih : Sound (.expr .disjunction) behind (disjunction stop behind)) :
    Sound (.expr .primary) (⟨.punctuation .openParen, position⟩ :: behind)
      (primary stop (⟨.punctuation .openParen, position⟩ :: behind)) := by
  intro taken htaken
  rw [primary] at htaken
  obtain ⟨inner, hinner, hrest⟩ := bind_eq_ok_iff.mp htaken
  obtain ⟨closed, hclosed, hreturn⟩ := bind_eq_ok_iff.mp hrest
  cases hreturn
  obtain ⟨ks, hspans, hspells⟩ := ih inner hinner
  exact ⟨_, (hspans.append (spans_of_expectMark stop hclosed)).cons, .group hspells⟩

theorem sound_call {function : Function} {opened : Taken Unit behind}
    (hfunction : Function.ofName? name = some function)
    (hopened : takeOf? [.punctuation .openParen] behind = some opened)
    (ih : Sound .arguments opened.rest (argumentList stop opened.rest)) :
    Sound (.expr .primary) (⟨.word name, position⟩ :: behind)
      (primary stop (⟨.word name, position⟩ :: behind)) := by
  intro taken htaken
  rw [primary, hfunction, hopened] at htaken
  obtain ⟨arguments, harguments, hrest⟩ := bind_eq_ok_iff.mp htaken
  obtain ⟨e, he, hreturn⟩ := bind_eq_ok_iff.mp hrest
  cases hreturn
  obtain ⟨ks, hspans, hspells⟩ := ih arguments harguments
  have hcall := call_of_callValue he
  cases functionName_of_ofName? hfunction
  exact ⟨_, ((spans_of_takeOf?_singleton hopened).append hspans).cons, .call hcall hspells⟩

theorem sound_word
    (hcall : ∀ function opened, Function.ofName? name = some function →
      takeOf? [.punctuation .openParen] behind = some opened → False) :
    Sound (.expr .primary) (⟨.word name, position⟩ :: behind)
      (primary stop (⟨.word name, position⟩ :: behind)) := by
  intro taken htaken
  rw [primary] at htaken
  split at htaken
  · next function opened hfunction hopened => exact (hcall function opened hfunction hopened).elim
  · obtain ⟨e, he, hreturn⟩ := bind_eq_ok_iff.mp htaken
    cases hreturn
    refine ⟨_, (Spans.nil behind).cons, ?_⟩
    rcases name_of_wordValue he with ⟨value, rfl, rfl⟩ | ⟨label, rfl, rfl⟩
    · exact .flag value
    · exact .label label

/-- The arguments up to the closing parenthesis, of which there is one at least. -/
def SoundArguments {input : List Token} (tokens : List Token)
    (result : Except SyntaxError (Taken (List Expr) input)) : Prop :=
  ∀ taken, result = .ok taken → taken.value ≠ [] ∧
    ∃ ks, Spans ks tokens taken.rest ∧ Phrase.arguments.Spells ks taken.value

theorem sound_someArguments
    (ihArgument : Sound (.expr .disjunction) tokens (disjunction stop tokens))
    (ihMore : ∀ (argument : Taken Expr tokens) (comma : Taken Unit argument.rest),
      SoundArguments comma.rest (someArguments stop comma.rest)) :
    SoundArguments tokens (someArguments stop tokens) := by
  intro taken htaken
  rw [someArguments] at htaken
  obtain ⟨argument, hargument, hrest⟩ := bind_eq_ok_iff.mp htaken
  obtain ⟨ks, hspans, hspells⟩ := ihArgument argument hargument
  split at hrest
  · next closed hclosed =>
    cases hrest
    exact ⟨List.cons_ne_nil _ _, _, hspans.append (spans_of_takeOf?_singleton hclosed),
      .lastArgument hspells⟩
  · split at hrest
    · next comma hcomma =>
      obtain ⟨arguments, harguments, hreturn⟩ := bind_eq_ok_iff.mp hrest
      cases hreturn
      obtain ⟨hne, js, hspansMore, hspellsMore⟩ := ihMore argument comma arguments harguments
      have hspansComma := spans_of_takeOf?_singleton hcomma
      exact ⟨List.cons_ne_nil _ _, ks ++ .punctuation .comma :: js,
        hspans.append (hspansComma.append hspansMore), .argument hne hspells hspellsMore⟩
    · cases hrest

end Primaries

/-! ### All readers -/

/-- What all the readers of expressions read is spelt by the tokens that they took. -/
theorem sound_readers :
    (∀ tokens, Sound (.expr .disjunction) tokens (disjunction stop tokens)) ∧
    (∀ tokens left rest h,
      SoundBehind .disjunction tokens left rest (moreDisjuncts stop tokens left rest h)) ∧
    (∀ tokens, Sound (.expr .conjunction) tokens (conjunction stop tokens)) ∧
    (∀ tokens left rest h,
      SoundBehind .conjunction tokens left rest (moreConjuncts stop tokens left rest h)) ∧
    (∀ tokens, Sound (.expr .negation) tokens (negation stop tokens)) ∧
    (∀ tokens, Sound (.expr .relation) tokens (relation stop tokens)) ∧
    (∀ tokens, Sound (.expr .sum) tokens (sum stop tokens)) ∧
    (∀ tokens rest h, Sound .moreParts rest (moreParts stop tokens rest h)) ∧
    (∀ tokens, Sound (.expr .selection) tokens (selection stop tokens)) ∧
    (∀ tokens source rest h,
      SoundBehind .selection tokens source rest (moreFilters stop tokens source rest h)) ∧
    (∀ tokens, Sound .filter tokens (filter stop tokens)) ∧
    (∀ tokens, Sound (.expr .primary) tokens (primary stop tokens)) ∧
    (∀ tokens, Sound .arguments tokens (argumentList stop tokens)) ∧
    (∀ tokens, SoundArguments tokens (someArguments stop tokens)) := by
  -- The induction follows the recursion of the readers, from each to those that it calls.
  refine disjunction.mutual_induct _ _ _ _ _ _ _ _ _ _ _ _ _ _
    ?disjunction ?disjunct ?lastDisjunct ?conjunction ?conjunct ?lastConjunct ?negated ?negation
    ?relation ?sum ?part ?lastPart ?selection ?has ?lastHas ?keyword ?wanted ?text ?number ?group
    ?call ?word ?other ?noArguments ?arguments ?someArguments
  case disjunction =>
    intro tokens ihLeft ihMore
    rw [disjunction]
    exact sound_of_tighter rfl ihLeft ihMore
  case disjunct =>
    intro tokens left rest h operator hoperator hlt ihRight ihMore
    rw [moreDisjuncts, hoperator]
    exact soundBehind_operator hoperator .or ihRight ihMore
  case lastDisjunct =>
    intro tokens left rest h hnone
    rw [moreDisjuncts, hnone]
    exact soundBehind_last h
  case conjunction =>
    intro tokens ihLeft ihMore
    rw [conjunction]
    exact sound_of_tighter rfl ihLeft ihMore
  case conjunct =>
    intro tokens left rest h operator hoperator hlt ihRight ihMore
    rw [moreConjuncts, hoperator]
    exact soundBehind_operator hoperator .and ihRight ihMore
  case lastConjunct =>
    intro tokens left rest h hnone
    rw [moreConjuncts, hnone]
    exact soundBehind_last h
  case negated =>
    intro tokens operator hoperator hlt ih
    exact sound_negated hoperator ih
  case negation =>
    intro tokens hnone ih taken htaken
    rw [negation, hnone] at htaken
    obtain ⟨ks, hspans, hspells⟩ := ih taken htaken
    exact ⟨ks, hspans, .tighter rfl hspells⟩
  case relation =>
    intro tokens ihLeft ihRight
    exact sound_relation ihLeft ihRight
  case sum =>
    intro tokens ihPart ihMore
    exact sound_parts ihPart ihMore
  case part =>
    intro tokens rest h plus hplus hlt ihPart ihMore
    exact sound_part h hplus ihPart fun part _ => ihMore part
  case lastPart =>
    intro tokens rest h hnone taken htaken
    rw [moreParts, hnone] at htaken
    cases htaken
    exact ⟨[], .nil rest, .noParts⟩
  case selection =>
    intro tokens ihSource ihMore
    rw [selection]
    exact sound_of_tighter rfl ihSource ihMore
  case has =>
    intro tokens source rest h has hhas hlt ihFilter ihMore
    exact soundBehind_has h hhas ihFilter fun filter _ => ihMore filter
  case lastHas =>
    intro tokens source rest h hnone
    rw [moreFilters, hnone]
    exact soundBehind_last h
  case keyword =>
    intro tokens filter hfilter taken htaken
    rw [Parser.filter, hfilter] at htaken
    cases htaken
    obtain ⟨k, hk, hspans⟩ := spans_of_take? hfilter
    exact ⟨[k], hspans, .keyword hk⟩
  case wanted =>
    intro tokens hnone ih
    exact sound_wanted hnone ih
  case text =>
    intro value position behind taken htaken
    rw [primary] at htaken
    cases htaken
    exact ⟨_, (Spans.nil behind).cons, .text value⟩
  case number =>
    intro value position behind taken htaken
    rw [primary] at htaken
    cases htaken
    exact ⟨_, (Spans.nil behind).cons, .number value⟩
  case group =>
    intro position behind ih
    exact sound_group ih
  case call =>
    intro name position behind function opened hopened hfunction hlt ih
    exact sound_call hfunction hopened ih
  case word =>
    intro name position behind hcall
    exact sound_word hcall
  case other =>
    intro tokens htext hnumber hgroup hword taken htaken
    rw [primary] at htaken
    · cases htaken
    all_goals assumption
  case noArguments =>
    intro tokens closed hclosed taken htaken
    rw [argumentList, hclosed] at htaken
    cases htaken
    exact ⟨_, spans_of_takeOf?_singleton hclosed, .noArguments⟩
  case arguments =>
    intro tokens hnone ih taken htaken
    rw [argumentList, hnone] at htaken
    exact (ih taken htaken).2
  case someArguments =>
    intro tokens ihArgument ihMore
    exact sound_someArguments ihArgument ihMore

theorem sound_sum (tokens : List Token) : Sound (.expr .sum) tokens (sum stop tokens) :=
  (sound_readers stop).2.2.2.2.2.2.1 tokens

theorem sound_disjunction (tokens : List Token) :
    Sound (.expr .disjunction) tokens (disjunction stop tokens) :=
  (sound_readers stop).1 tokens

/-! ## Operands -/

theorem sound_operand (tokens : List Token) : Sound (.expr .sum) tokens (operand stop tokens) := by
  intro taken htaken
  rw [operand] at htaken
  split at htaken
  · exact sound_sum stop tokens taken htaken
  · cases htaken

/-- An operand list goes as far as it can. -/
theorem sound_moreOperands (tokens rest : List Token) (h : rest.length < tokens.length)
    (taken : Taken (List Expr) tokens) (htaken : moreOperands stop tokens rest h = .ok taken) :
    ∃ ks, Spans ks rest taken.rest ∧ Phrase.operands.Spells ks taken.value ∧
      startsOperand taken.rest = false := by
  fun_induction moreOperands stop tokens rest h generalizing taken with
  | case1 rest h hstart ih =>
    obtain ⟨part, hpart, hrest⟩ := bind_eq_ok_iff.mp htaken
    obtain ⟨parts, hparts, hreturn⟩ := bind_eq_ok_iff.mp hrest
    cases hreturn
    obtain ⟨ks, hspans, hspells⟩ := sound_sum stop rest part hpart
    obtain ⟨js, hspansParts, hspellsParts, hstop⟩ := ih part parts hparts
    exact ⟨ks ++ js, hspans.append hspansParts, .operand hspells hspellsParts, hstop⟩
  | case2 rest h hstart =>
    cases htaken
    exact ⟨[], .nil rest, .noOperands, by simpa using hstart⟩

theorem sound_operands (tokens : List Token) (taken : Taken (List Expr) tokens)
    (htaken : operands stop tokens = .ok taken) :
    ∃ ks, Spans ks tokens taken.rest ∧ Phrase.operands.Spells ks taken.value ∧
      taken.value ≠ [] ∧ startsOperand taken.rest = false := by
  obtain ⟨part, hpart, hrest⟩ := bind_eq_ok_iff.mp htaken
  obtain ⟨parts, hparts, hreturn⟩ := bind_eq_ok_iff.mp hrest
  cases hreturn
  obtain ⟨ks, hspans, hspells⟩ := sound_operand stop tokens part hpart
  obtain ⟨js, hspansParts, hspellsParts, hstop⟩ :=
    sound_moreOperands stop tokens part.rest part.shorter parts hparts
  exact ⟨ks ++ js, hspans.append hspansParts, .operand hspells hspellsParts,
    List.cons_ne_nil _ _, hstop⟩

/-! ## Simple statements -/

/-- If the reading succeeds, the tokens from `tokens` on spell a statement that holds no other one,
and no operand is left behind an operand list. -/
def SoundAction (tokens : List Token) {input : List Token}
    (result : Except SyntaxError (Taken Statement input)) : Prop :=
  ∀ taken, result = .ok taken → ∃ ks more, Spans ks tokens taken.rest ∧
    SpellsAction ks taken.value more ∧ (more = true → startsOperand taken.rest = false)

def verbName : Verb → String
  | .set => "set"
  | .add => "add"
  | .replace => "replace"

theorem verbName_of_verb? {k : TokenKind} {verb : Verb} (h : verb? k = some verb) :
    k = .word (verbName verb) := by
  unfold verb? at h
  split at h <;> cases h <;> rfl

theorem targetKinds_of_target? {k : TokenKind} {target : Target} (h : target? k = some target) :
    targetKinds target = [k] := by
  unfold target? at h
  split at h <;> cases h <;> rfl

/-- A statement that is made of an operand list behind the tokens of the kinds `ks`. -/
theorem sound_listed {make : List Expr → Statement} {ks : List TokenKind} {tokens rest : List Token}
    (hmake : ∀ js parts, parts ≠ [] → Phrase.operands.Spells js parts →
      SpellsAction (ks ++ js) (make parts) true)
    (hspans : Spans ks tokens rest) :
    SoundAction tokens (operands stop rest >>= fun parts => .ok (parts.map make)) := by
  intro taken htaken
  obtain ⟨parts, hparts, hreturn⟩ := bind_eq_ok_iff.mp htaken
  cases hreturn
  obtain ⟨js, hspansParts, hspells, hne, hstop⟩ := sound_operands stop rest parts hparts
  exact ⟨ks ++ js, true, hspans.append hspansParts, hmake js _ hne hspells, fun _ => hstop⟩

theorem sound_bare (target : Target) {tokens rest : List Token}
    (hspans : Spans (targetKinds target) tokens rest) :
    SoundAction tokens (operands stop rest >>= fun parts => .ok (parts.map (.add target))) :=
  sound_listed stop (fun _ _ hne hspells => .bare target hne hspells) hspans

theorem sound_action (target : Target) (verb : Verb) {tokens rest : List Token}
    (hspans : Spans (targetKinds target ++ [.word (verbName verb)]) tokens rest) :
    SoundAction tokens (action stop target verb rest) := by
  cases verb with
  | set =>
    refine sound_listed stop (fun js parts hne hspells => ?_) hspans
    rw [List.append_assoc]
    exact .set target hne hspells
  | add =>
    refine sound_listed stop (fun js parts hne hspells => ?_) hspans
    rw [List.append_assoc]
    exact .add target hne hspells
  | replace =>
    intro taken htaken
    obtain ⟨pattern, hpattern, hrest⟩ := bind_eq_ok_iff.mp htaken
    obtain ⟨image, himage, hreturn⟩ := bind_eq_ok_iff.mp hrest
    cases hreturn
    obtain ⟨ks, hspansPattern, hspellsPattern⟩ := sound_operand stop rest pattern hpattern
    obtain ⟨js, hspansImage, hspellsImage⟩ := sound_operand stop pattern.rest image himage
    refine ⟨targetKinds target ++ .word "replace" :: (ks ++ js), false, ?_,
      .replace target hspellsPattern hspellsImage, by simp⟩
    have hspansAll := hspans.append (hspansPattern.append hspansImage)
    rwa [List.append_assoc] at hspansAll

theorem SoundAction.widen {tokens inner outer : List Token}
    {result : Except SyntaxError (Taken Statement inner)} (h : SoundAction tokens result)
    (hle : inner.length ≤ outer.length) :
    SoundAction tokens (result >>= fun taken => .ok (taken.widen hle)) := by
  intro taken htaken
  obtain ⟨taken', htaken', hreturn⟩ := bind_eq_ok_iff.mp htaken
  cases hreturn
  exact h taken' htaken'

theorem sound_targeted (target : Target) {tokens rest : List Token}
    (hspans : Spans (targetKinds target) tokens rest) :
    SoundAction tokens (targeted stop target rest) := by
  unfold targeted
  split
  · next verb hverb =>
    obtain ⟨k, hk, hspansVerb⟩ := spans_of_take? hverb
    cases verbName_of_verb? hk
    exact (sound_action stop target verb.value (hspans.append hspansVerb)).widen _
  · split
    · exact sound_bare stop target hspans
    · intro taken htaken
      cases htaken

theorem sound_simpleStatement (tokens : List Token) :
    SoundAction tokens (simpleStatement stop tokens) := by
  unfold simpleStatement
  -- The reader looks for an operand, then a target, then a verb, then the two other words.
  split
  · exact sound_bare stop .unnamed (.nil tokens)
  · split
    · next target htarget =>
      obtain ⟨k, hk, hspans⟩ := spans_of_take? htarget
      rw [← targetKinds_of_target? hk] at hspans
      exact (sound_targeted stop target.value hspans).widen _
    · next verb hnone hverb =>
      obtain ⟨k, hk, hspans⟩ := spans_of_take? hverb
      cases verbName_of_verb? hk
      exact (sound_action stop .unnamed verb.value hspans).widen _
    · split
      · next skip hskip =>
        intro taken htaken
        cases htaken
        exact ⟨_, false, spans_of_takeOf?_singleton hskip, .skip, by simp⟩
      · next cancel hnone hcancel =>
        intro taken htaken
        obtain ⟨parts, hparts, hreturn⟩ := bind_eq_ok_iff.mp htaken
        cases hreturn
        obtain ⟨ks, hspans, hspells, hstop⟩ :=
          sound_moreOperands stop tokens cancel.rest cancel.shorter parts hparts
        exact ⟨_, true, (spans_of_takeOf?_singleton hcancel).append hspans, .cancel hspells,
          fun _ => hstop⟩
      · intro taken htaken
        cases htaken

/-! ## Clauses -/

theorem spans_skipSemicolons (tokens : List Token) :
    ∃ n, Spans (semicolons n) tokens (skipSemicolons tokens) := by
  induction tokens with
  | nil => exact ⟨0, .nil []⟩
  | cons token tokens ih =>
    by_cases h : token.kind = .punctuation .semicolon
    · obtain ⟨n, hspans⟩ := ih
      refine ⟨n + 1, ?_⟩
      rw [skipSemicolons, List.dropWhile_cons_of_pos (by simpa using h)]
      have hcons : Spans _ (token :: tokens) _ := hspans.cons
      rwa [h] at hcons
    · refine ⟨0, ?_⟩
      rw [skipSemicolons, List.dropWhile_cons_of_neg (by simpa using h)]
      exact .nil _

/-- Nothing is left that the clause before would have taken in. -/
structure Ending.Kept (ending : Ending) (rest : List Token) : Prop where
  operand : ending.operand = true → startsOperand rest = false
  otherwise : ending.otherwise = true → takeOf? [.word "else"] rest = none

theorem Ending.kept_closed (rest : List Token) : Ending.closed.Kept rest :=
  ⟨by simp [Ending.closed], by simp [Ending.closed]⟩

theorem Ending.Kept.not_otherwise {ending : Ending} {rest : List Token}
    (h : ending.Kept rest) {word : Taken Unit rest}
    (hword : takeOf? [.word "else"] rest = some word) : ending.otherwise = false := by
  cases hopen : ending.otherwise with
  | false => rfl
  | true =>
    rw [h.otherwise hopen] at hword
    cases hword

/-- If the reading succeeds, the tokens from `tokens` on spell its value and nothing is left that
would have been taken in. -/
def SoundClause (clause : Clause) (tokens : List Token) {input : List Token}
    (result : Except SyntaxError (Taken clause.Meaning input)) : Prop :=
  ∀ taken, result = .ok taken → ∃ ks ending, Spans ks tokens taken.rest ∧
    clause.Spells ks taken.value ending ∧ ending.Kept taken.rest

theorem sound_ended {tokens : List Token} (taken : Taken Statement tokens) {ks : List TokenKind}
    {more : Bool} (hspans : Spans ks tokens taken.rest) (hspells : SpellsAction ks taken.value more)
    (hstop : more = true → startsOperand taken.rest = false) :
    SoundClause .statement tokens (.ok (ended taken)) := by
  intro taken' htaken'
  cases htaken'
  obtain ⟨n, hsemicolons⟩ := spans_skipSemicolons taken.rest
  refine ⟨ks ++ semicolons n, _, hspans.append hsemicolons, .action n hspells, ?_, by simp⟩
  -- Only without semicolons could an operand still be taken in.
  intro hmore
  simp only [Bool.and_eq_true, beq_iff_eq] at hmore
  obtain ⟨hmore, rfl⟩ := hmore
  have heq : taken.rest = skipSemicolons taken.rest := hsemicolons.eq_of_nil
  show startsOperand (skipSemicolons taken.rest) = false
  rw [← heq]
  exact hstop hmore

/-- A first token that no operand starts with is still none when tokens are seen as kinds. -/
theorem not_startsOperand_head {ks : List TokenKind} {tokens rest : List Token}
    (hspans : Spans ks tokens rest) (h : startsOperand tokens = false) :
    ∀ k ∈ ks.head?, TokenKind.startsOperand k = false := by
  intro k hk
  obtain ⟨js, rfl⟩ := List.head?_eq_some_iff.mp hk
  obtain ⟨token, middle, rfl, rfl, -⟩ := hspans.uncons
  exact h

/-! ### One clause -/

section Steps

variable {stop : Position} {tokens rest : List Token}

theorem sound_choose {word : Taken Unit tokens} (hword : takeOf? [.word "if"] tokens = some word)
    (ih : SoundClause .branches word.rest (branches stop word.rest)) :
    SoundClause .statement tokens (statement stop tokens) := by
  intro taken htaken
  rw [statement, hword] at htaken
  obtain ⟨branches, hbranches, hreturn⟩ := bind_eq_ok_iff.mp htaken
  cases hreturn
  obtain ⟨ks, ending, hspans, hspells, hkept⟩ := ih branches hbranches
  exact ⟨_, ending, (spans_of_takeOf?_singleton hword).append hspans, .choose hspells, hkept⟩

theorem sound_branch
    (ihBody : ∀ (opened : Taken Unit tokens) (condition : Taken Expr opened.rest)
      (closed : Taken Unit condition.rest), SoundClause .body closed.rest (body stop closed.rest))
    (ihRest : ∀ (opened : Taken Unit tokens) (condition : Taken Expr opened.rest)
      (closed : Taken Unit condition.rest) (inner : Taken (List Statement) closed.rest)
      (h : inner.rest.length < tokens.length) (before : Ending), before.Kept inner.rest →
      SoundClause (.others before) inner.rest (otherBranches stop tokens inner.rest h)) :
    SoundClause .branches tokens (branches stop tokens) := by
  intro taken htaken
  rw [branches] at htaken
  obtain ⟨opened, hopened, h₁⟩ := bind_eq_ok_iff.mp htaken
  obtain ⟨condition, hcondition, h₂⟩ := bind_eq_ok_iff.mp h₁
  obtain ⟨closed, hclosed, h₃⟩ := bind_eq_ok_iff.mp h₂
  obtain ⟨body, hbody, h₄⟩ := bind_eq_ok_iff.mp h₃
  obtain ⟨rest, hrest, hreturn⟩ := bind_eq_ok_iff.mp h₄
  cases hreturn
  obtain ⟨ks, hspans, hspells⟩ := sound_disjunction stop opened.rest condition hcondition
  obtain ⟨js, inner, hspansBody, hspellsBody, hkept⟩ := ihBody opened condition closed body hbody
  -- What the body would have taken in is not there, so an `else` belongs to this choice.
  obtain ⟨is, ending, hspansRest, hspellsRest, hkeptRest⟩ :=
    ihRest opened condition closed body _ inner hkept rest hrest
  have hspansOpened := spans_of_expectMark stop hopened
  have hspansClosed := spans_of_expectMark stop hclosed
  exact ⟨.punctuation .openParen :: (ks ++ .punctuation .closeParen :: (js ++ is)), ending,
    hspansOpened.append (hspans.append (hspansClosed.append (hspansBody.append hspansRest))),
    .branch hspells hspellsBody hspellsRest, hkeptRest⟩

section Otherwise

variable {word : Taken Unit rest} {before : Ending}

theorem sound_otherIf {ifWord : Taken Unit word.rest} (h : rest.length < tokens.length)
    (hword : takeOf? [.word "else"] rest = some word)
    (hif : takeOf? [.word "if"] word.rest = some ifWord)
    (ih : SoundClause .branches ifWord.rest (branches stop ifWord.rest))
    (hkept : before.Kept rest) :
    SoundClause (.others before) rest (otherBranches stop tokens rest h) := by
  intro taken htaken
  rw [otherBranches, hword] at htaken
  dsimp only at htaken
  rw [hif] at htaken
  obtain ⟨more, hmore, hreturn⟩ := bind_eq_ok_iff.mp htaken
  cases hreturn
  obtain ⟨ks, ending, hspans, hspells, hkeptMore⟩ := ih more hmore
  have hspansElse := spans_of_takeOf?_singleton hword
  have hspansIf := spans_of_takeOf?_singleton hif
  exact ⟨.word "else" :: .word "if" :: ks, ending, hspansElse.append (hspansIf.append hspans),
    .otherIf (hkept.not_otherwise hword) hspells, hkeptMore⟩

theorem sound_otherwise (h : rest.length < tokens.length)
    (hword : takeOf? [.word "else"] rest = some word)
    (hif : takeOf? [.word "if"] word.rest = none)
    (ih : SoundClause .body word.rest (body stop word.rest)) (hkept : before.Kept rest) :
    SoundClause (.others before) rest (otherBranches stop tokens rest h) := by
  intro taken htaken
  rw [otherBranches, hword] at htaken
  dsimp only at htaken
  rw [hif] at htaken
  obtain ⟨last, hlast, hreturn⟩ := bind_eq_ok_iff.mp htaken
  cases hreturn
  obtain ⟨ks, ending, hspans, hspells, hkeptLast⟩ := ih last hlast
  have hspansElse := spans_of_takeOf?_singleton hword
  exact ⟨.word "else" :: ks, ending, hspansElse.append hspans,
    .otherwise (hkept.not_otherwise hword) (head?_ne_of_takeOf?_singleton hspans hif) hspells,
    hkeptLast⟩

end Otherwise

theorem sound_next
    (hnone : takeOf? [.punctuation .closeBrace] (skipSemicolons tokens) = none)
    (hsome : ¬ (skipSemicolons tokens).isEmpty = true)
    (ihFirst : SoundClause .statement (skipSemicolons tokens)
      (statement stop (skipSemicolons tokens)))
    (ihMore : ∀ first : Taken Statement (skipSemicolons tokens),
      SoundClause (.sequence [.punctuation .closeBrace]) first.rest (block stop first.rest)) :
    SoundClause (.sequence [.punctuation .closeBrace]) tokens (block stop tokens) := by
  intro taken htaken
  rw [block, hnone] at htaken
  dsimp only at htaken
  rw [if_neg hsome] at htaken
  obtain ⟨first, hfirst, hrest⟩ := bind_eq_ok_iff.mp htaken
  obtain ⟨more, hmore, hreturn⟩ := bind_eq_ok_iff.mp hrest
  cases hreturn
  obtain ⟨n, hsemicolons⟩ := spans_skipSemicolons tokens
  obtain ⟨ks, ending, hspans, hspells, hkept⟩ := ihFirst first hfirst
  obtain ⟨js, last, hspansMore, hspellsMore, -⟩ := ihMore first more hmore
  have hnext := fun hoperand => not_startsOperand_head hspansMore (hkept.operand hoperand)
  exact ⟨_, .closed, hsemicolons.append (hspans.append hspansMore),
    .next n hnext hspells hspellsMore, Ending.kept_closed _⟩

end Steps

/-! ### All clauses -/

/-- What all the readers of clauses read is spelt by the tokens that they took. -/
theorem sound_clauses :
    (∀ tokens, SoundClause .statement tokens (statement stop tokens)) ∧
    (∀ tokens, SoundClause .branches tokens (branches stop tokens)) ∧
    (∀ tokens rest h before, Ending.Kept before rest →
      SoundClause (.others before) rest (otherBranches stop tokens rest h)) ∧
    (∀ tokens, SoundClause .body tokens (body stop tokens)) ∧
    (∀ tokens,
      SoundClause (.sequence [.punctuation .closeBrace]) tokens (block stop tokens)) := by
  -- What the body in front has left open is settled where its branches are read.
  refine statement.mutual_induct _ _ _ _ _ ?choose ?action ?branch ?otherIf ?otherwise ?done
    ?braces ?single ?finish ?unterminated ?next
  case choose =>
    intro tokens word hword hlt ih
    exact sound_choose hword ih
  case action =>
    intro tokens hnone taken htaken
    rw [statement, hnone] at htaken
    obtain ⟨simple, hsimple, hreturn⟩ := bind_eq_ok_iff.mp htaken
    obtain ⟨ks, more, hspans, hspells, hstop⟩ := sound_simpleStatement stop tokens simple hsimple
    exact sound_ended simple hspans hspells hstop taken hreturn
  case branch =>
    intro tokens ihBody ihRest
    exact sound_branch ihBody fun opened condition closed inner _ =>
      ihRest opened condition closed inner
  case otherIf =>
    intro tokens rest h word hword hlt ifWord hif hltIf ih before hkept
    exact sound_otherIf h hword hif ih hkept
  case otherwise =>
    intro tokens rest h word hword hlt hif ih before hkept
    exact sound_otherwise h hword hif ih hkept
  case done =>
    intro tokens rest h hnone before hkept taken htaken
    rw [otherBranches, hnone] at htaken
    cases htaken
    exact ⟨[], _, .nil rest, .done, hkept.operand, fun _ => hnone⟩
  case braces =>
    intro tokens opened hopened hlt ih taken htaken
    rw [body, hopened] at htaken
    obtain ⟨statements, hstatements, hreturn⟩ := bind_eq_ok_iff.mp htaken
    cases hreturn
    obtain ⟨ks, ending, hspans, hspells, hkept⟩ := ih statements hstatements
    exact ⟨_, .closed, (spans_of_takeOf?_singleton hopened).append hspans, .braces hspells,
      Ending.kept_closed _⟩
  case single =>
    intro tokens hnone ih taken htaken
    rw [body, hnone] at htaken
    obtain ⟨statement, hstatement, hreturn⟩ := bind_eq_ok_iff.mp htaken
    cases hreturn
    obtain ⟨ks, ending, hspans, hspells, hkept⟩ := ih statement hstatement
    exact ⟨ks, ending, hspans, .single hspells, hkept⟩
  case finish =>
    intro tokens hle closed hclosed taken htaken
    rw [block, hclosed] at htaken
    cases htaken
    obtain ⟨n, hsemicolons⟩ := spans_skipSemicolons tokens
    exact ⟨_, .closed, hsemicolons.append (spans_of_takeOf?_singleton hclosed), .finish n,
      Ending.kept_closed _⟩
  case unterminated =>
    intro tokens hle hnone hempty taken htaken
    rw [block, hnone] at htaken
    simp only [hempty, if_true, failAt, reduceCtorEq] at htaken
  case next =>
    intro tokens hle hnone hsome ihFirst ihMore
    exact sound_next hnone hsome ihFirst ihMore

theorem sound_statement (tokens : List Token) :
    SoundClause .statement tokens (statement stop tokens) :=
  (sound_clauses stop).1 tokens

/-! ## Scripts -/

/-- All the tokens of a script that is read spell its statements. -/
theorem spells_of_statements {tokens : List Token} {program : List Statement}
    (h : statements stop tokens = .ok program) :
    ∃ ending, (Clause.sequence []).Spells (tokens.map Token.kind) program ending := by
  fun_induction statements stop tokens generalizing program with
  | case1 tokens hle hempty =>
    cases h
    -- No token closes a whole script, which may end with semicolons all the same.
    obtain ⟨n, hsemicolons⟩ := spans_skipSemicolons tokens
    rw [List.isEmpty_iff.mp hempty] at hsemicolons
    refine ⟨.closed, ?_⟩
    rw [hsemicolons.map_kind]
    exact .finish n
  | case2 tokens hle hempty ih =>
    obtain ⟨first, hfirst, hrest⟩ := bind_eq_ok_iff.mp h
    obtain ⟨more, hmore, hreturn⟩ := bind_eq_ok_iff.mp hrest
    cases hreturn
    obtain ⟨n, hsemicolons⟩ := spans_skipSemicolons tokens
    obtain ⟨ks, ending, hspans, hspells, hkept⟩ := sound_statement stop _ first hfirst
    obtain ⟨last, hspellsMore⟩ := ih first hmore
    have hnext := fun hoperand =>
      not_startsOperand_head (Spans.all first.rest) (hkept.operand hoperand)
    refine ⟨.closed, ?_⟩
    rw [hsemicolons.map_kind, hspans.map_kind]
    exact .next n hnext hspells hspellsMore

end MediaNaming.Grammar
