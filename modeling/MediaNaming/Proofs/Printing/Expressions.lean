import MediaNaming.Proofs.Grammar.Expressions
import MediaNaming.Proofs.Printing.Spelling

/-!
# Printing expressions

An expression is printed at a level: it is put in parentheses if its own operator is looser. What
is printed spells the expression, and every expression that tokens spell is one that is printed so.
-/

namespace MediaNaming

open Grammar MediaNaming.Parser

/-! ## Well-formed expressions -/

/-- Whether the filter is a word, not a value that stands for a text. -/
def Filter.isKeyword : Filter → Bool
  | .language _ => true
  | .titleKind _ => true
  | .text _ => false

namespace Expr

mutual

/--
Whether the expression can be written: sums have two parts at least, and the filters of a `has`,
one at least, are all keywords from the second on.
-/
def wellFormed : Expr → Bool
  | .flag _ => true
  | .text _ => true
  | .number _ => true
  | .label _ => true
  | .not operand => operand.wellFormed
  | .and left right => left.wellFormed && right.wellFormed
  | .or left right => left.wellFormed && right.wellFormed
  | .compare _ left right => left.wellFormed && right.wellFormed
  | .concat parts => decide (2 ≤ parts.length) && allWellFormed parts
  | .first collection => collection.wellFormed
  | .rest value start => value.wellFormed && start.wellFormed
  | .substr value start length => value.wellFormed && start.wellFormed && length.wellFormed
  | .trunc value length => value.wellFormed && length.wellFormed
  | .convert _ value => value.wellFormed
  | .pad value width => value.wellFormed && width.wellFormed
  | .episodes width => width.wellFormed
  | .len operand => operand.wellFormed
  | .has source filters =>
    source.wellFormed && !filters.isEmpty && filters.tail.all Filter.isKeyword &&
      filtersWellFormed filters

def allWellFormed : List Expr → Bool
  | [] => true
  | part :: parts => part.wellFormed && allWellFormed parts

/-- Whether the values that the filters stand for can be written. -/
def filtersWellFormed : List Filter → Bool
  | [] => true
  | .text wanted :: filters => wanted.wellFormed && filtersWellFormed filters
  | _ :: filters => filtersWellFormed filters

end

end Expr

/-! ## Printing -/

namespace Printing

/-- The phrase in parentheses if its own level is looser than the one where it stands. -/
def enclose (level own : Level) (ks : List TokenKind) : List TokenKind :=
  if level.rank ≤ own.rank then
    ks
  else
    .punctuation .openParen :: (ks ++ [.punctuation .closeParen])

/-- Arguments up to the closing parenthesis of their call. -/
def argumentKinds : List (List TokenKind) → List TokenKind
  | [] => [.punctuation .closeParen]
  | [argument] => argument ++ [.punctuation .closeParen]
  | argument :: arguments => argument ++ .punctuation .comma :: argumentKinds arguments

def callKinds (function : Function) (arguments : List (List TokenKind)) : List TokenKind :=
  .word function.name :: .punctuation .openParen :: argumentKinds arguments

def comparisonMark : Comparison → Punctuation
  | .equal => .equal
  | .notEqual => .notEqual
  | .less => .less
  | .lessEqual => .lessEqual
  | .greater => .greater
  | .greaterEqual => .greaterEqual

end Printing

open Printing

mutual

/-- The tokens that the expression is printed as where a level is wanted. -/
def Expr.kinds (level : Level) : Expr → List TokenKind
  | .flag value => [.word (flagName value)]
  | .text value => [.text value]
  | .number value => [.number value]
  | .label label => [.word label.name]
  | .not operand => enclose level .negation (.word "not" :: operand.kinds .negation)
  | .and left right =>
    enclose level .conjunction
      (left.kinds .conjunction ++ .word "and" :: right.kinds .negation)
  | .or left right =>
    enclose level .disjunction
      (left.kinds .disjunction ++ .word "or" :: right.kinds .conjunction)
  | .compare comparison left right =>
    enclose level .relation
      (left.kinds .sum ++ .punctuation (comparisonMark comparison) :: right.kinds .sum)
  | .concat parts => enclose level .sum (sumKinds parts)
  | .first collection => callKinds .first [collection.kinds .disjunction]
  | .rest value start => callKinds .substr [value.kinds .disjunction, start.kinds .disjunction]
  | .substr value start length =>
    callKinds .substr
      [value.kinds .disjunction, start.kinds .disjunction, length.kinds .disjunction]
  | .trunc value length => callKinds .trunc [value.kinds .disjunction, length.kinds .disjunction]
  | .convert conversion value => callKinds (.convert conversion) [value.kinds .disjunction]
  | .pad value width => callKinds .pad [value.kinds .disjunction, width.kinds .disjunction]
  | .episodes width => callKinds .episodes [width.kinds .disjunction]
  | .len operand => callKinds .len [operand.kinds .disjunction]
  | .has source filters =>
    enclose level .selection
      (source.kinds .selection ++ .word "has" :: chainKinds filters)

/-- The parts of a sum with plus signs between them. -/
def sumKinds : List Expr → List TokenKind
  | [] => []
  | [part] => part.kinds .selection
  | part :: parts => part.kinds .selection ++ .punctuation .plus :: sumKinds parts

/-- The filters of a chain with an `and` between them. -/
def chainKinds : List Filter → List TokenKind
  | [] => []
  | [filter] => filter.kinds
  | filter :: filters => filter.kinds ++ .word "and" :: chainKinds filters

def Filter.kinds : Filter → List TokenKind
  | .language language => [.word language.name]
  | .titleKind kind => [.word kind.name]
  | .text wanted => wanted.kinds .primary

end

/-- Operands side by side. -/
def operandKinds : List Expr → List TokenKind
  | [] => []
  | part :: parts => part.kinds .sum ++ operandKinds parts

/-! ## What is printed spells the expression -/

namespace Printing

theorem spells_of_rank_le {own level : Level} {ks : List TokenKind} {e : Expr}
    (hle : level.rank ≤ own.rank) (h : (Phrase.expr own).Spells ks e) :
    (Phrase.expr level).Spells ks e := by
  -- The induction goes down from the tightest level, one level at a time.
  induction hn : own.rank - level.rank generalizing level with
  | zero =>
    have heq : level = own := by
      cases level <;> cases own <;> first | rfl | (simp only [Level.rank] at hn hle; omega)
    rw [heq]
    exact h
  | succ n ih =>
    cases htighter : level.tighter? with
    | none =>
      cases level <;> cases htighter
      cases own <;> simp [Level.rank] at hn
    | some inner =>
      have hrank : inner.rank = level.rank + 1 := by cases level <;> cases htighter <;> rfl
      exact .tighter htighter (ih (by omega) (by omega))

theorem spells_enclose {own : Level} {ks : List TokenKind} {e : Expr} (level : Level)
    (h : (Phrase.expr own).Spells ks e) : (Phrase.expr level).Spells (enclose level own ks) e := by
  unfold enclose
  split
  · next hle => exact spells_of_rank_le hle h
  · -- Between parentheses the loosest level is wanted, and together they are as tight as can be.
    have hloosest : (Phrase.expr .disjunction).Spells ks e :=
      spells_of_rank_le (Nat.zero_le _) h
    exact spells_of_rank_le (by cases level <;> decide) (.group hloosest)

theorem spells_primary {ks : List TokenKind} {e : Expr} (level : Level)
    (h : (Phrase.expr .primary).Spells ks e) : (Phrase.expr level).Spells ks e :=
  spells_of_rank_le (by cases level <;> decide) h

/-- What is printed for the expression spells it at every level. -/
def Prints (e : Expr) : Prop :=
  ∀ level, (Phrase.expr level).Spells (e.kinds level) e

theorem comparison?_comparisonMark (comparison : Comparison) :
    comparison? (.punctuation (comparisonMark comparison)) = some comparison := by
  cases comparison <;> rfl

theorem spells_argumentKinds {arguments : List Expr} (h : ∀ e ∈ arguments, Prints e) :
    Phrase.arguments.Spells (argumentKinds (arguments.map (Expr.kinds .disjunction)))
      arguments := by
  induction arguments with
  | nil => exact .noArguments
  | cons argument arguments ih =>
    have hargument := h argument List.mem_cons_self .disjunction
    cases arguments with
    | nil => exact .lastArgument hargument
    | cons next arguments =>
      have hmore := ih fun e he => h e (List.mem_cons_of_mem _ he)
      exact .argument (List.cons_ne_nil _ _) hargument hmore

theorem spells_call {function : Function} {arguments : List Expr} {e : Expr} (level : Level)
    (hcall : function.call? arguments = some e) (h : ∀ e ∈ arguments, Prints e) :
    (Phrase.expr level).Spells (callKinds function (arguments.map (Expr.kinds .disjunction))) e :=
  spells_primary level (.call hcall (spells_argumentKinds h))

theorem forall_mem_pair {p : Expr → Prop} {left right : Expr} (hleft : p left) (hright : p right) :
    ∀ e ∈ [left, right], p e :=
  List.forall_mem_cons.mpr ⟨hleft, List.forall_mem_singleton.mpr hright⟩

theorem spells_sumKinds {part : Expr} {parts : List Expr} (h : ∀ e ∈ part :: parts, Prints e) :
    ∃ js, sumKinds (part :: parts) = part.kinds .selection ++ js ∧
      Phrase.moreParts.Spells js parts := by
  induction parts generalizing part with
  | nil => exact ⟨[], (List.append_nil _).symm, .noParts⟩
  | cons next parts ih =>
    have htail : ∀ e ∈ next :: parts, Prints e := fun e he => h e (List.mem_cons_of_mem _ he)
    obtain ⟨js, hjs, hspells⟩ := ih htail
    have hnext := htail next List.mem_cons_self .selection
    refine ⟨.punctuation .plus :: (next.kinds .selection ++ js), ?_, .part hnext hspells⟩
    rw [← hjs]
    rfl

theorem keyword?_of_isKeyword {filter : Filter} (h : filter.isKeyword = true) :
    ∃ k, filter.kinds = [k] ∧ keyword? k = some filter := by
  cases filter with
  | language language => exact ⟨_, rfl, keywordFilter?_languageName language⟩
  | titleKind kind => exact ⟨_, rfl, keywordFilter?_titleKindName kind⟩
  | text wanted => cases h

theorem spells_chainKinds {filter : Filter} {filters : List Filter}
    (h : filters.all Filter.isKeyword = true) :
    ∃ is, chainKinds (filter :: filters) = filter.kinds ++ is ∧
      Phrase.moreFilters.Spells is filters := by
  induction filters generalizing filter with
  | nil => exact ⟨[], (List.append_nil _).symm, .noFilters⟩
  | cons next filters ih =>
    rw [List.all_cons, Bool.and_eq_true] at h
    obtain ⟨k, hkinds, hk⟩ := keyword?_of_isKeyword h.1
    obtain ⟨is, his, hspells⟩ : ∃ is, chainKinds (next :: filters) = next.kinds ++ is ∧
        Phrase.moreFilters.Spells is filters := ih h.2
    refine ⟨.word "and" :: k :: is, ?_, .andKeyword (by simp [andKinds]) hk hspells⟩
    have htail : chainKinds (next :: filters) = k :: is := by rw [his, hkinds]; rfl
    rw [← htail]
    rfl

mutual

/-- What is printed for a well-formed expression spells it at every level. -/
theorem prints_expr (e : Expr) (h : e.wellFormed = true) : Prints e := by
  intro level
  cases e with
  | flag value => exact spells_primary level (.flag value)
  | text value => exact spells_primary level (.text value)
  | number value => exact spells_primary level (.number value)
  | label label => exact spells_primary level (.label label)
  | not operand =>
    have hoperand := prints_expr operand h
    exact spells_enclose level (.not (by simp [notKinds]) (hoperand .negation))
  | and left right =>
    rw [Expr.wellFormed, Bool.and_eq_true] at h
    have hleft := prints_expr left h.1
    have hright := prints_expr right h.2
    exact spells_enclose level
      (.and (by simp [andKinds]) (hleft .conjunction) (hright .negation))
  | or left right =>
    rw [Expr.wellFormed, Bool.and_eq_true] at h
    have hleft := prints_expr left h.1
    have hright := prints_expr right h.2
    exact spells_enclose level
      (.or (by simp [orKinds]) (hleft .disjunction) (hright .conjunction))
  | compare comparison left right =>
    rw [Expr.wellFormed, Bool.and_eq_true] at h
    have hleft := prints_expr left h.1
    have hright := prints_expr right h.2
    exact spells_enclose level
      (.compare (comparison?_comparisonMark comparison) (hleft .sum) (hright .sum))
  | concat parts =>
    rw [Expr.wellFormed, Bool.and_eq_true, decide_eq_true_eq] at h
    have hparts := prints_parts parts h.2
    obtain ⟨part, more, rfl⟩ := List.exists_cons_of_length_pos (Nat.zero_lt_of_lt h.1)
    have hmore : more ≠ [] := by
      rintro rfl
      simp at h
    obtain ⟨js, hjs, hspells⟩ := spells_sumKinds hparts
    rw [Expr.kinds, hjs]
    exact spells_enclose level
      (.concat hmore (hparts part List.mem_cons_self .selection) hspells)
  | first collection =>
    have hcall : Function.call? .first [collection] = some (.first collection) := rfl
    exact spells_call level hcall (List.forall_mem_singleton.mpr (prints_expr collection h))
  | rest value start =>
    rw [Expr.wellFormed, Bool.and_eq_true] at h
    have hcall : Function.call? .substr [value, start] = some (.rest value start) := rfl
    exact spells_call level hcall
      (forall_mem_pair (prints_expr value h.1) (prints_expr start h.2))
  | substr value start length =>
    rw [Expr.wellFormed, Bool.and_eq_true, Bool.and_eq_true] at h
    have hcall : Function.call? .substr [value, start, length] =
        some (.substr value start length) := rfl
    have hmore := forall_mem_pair (prints_expr start h.1.2) (prints_expr length h.2)
    exact spells_call level hcall (List.forall_mem_cons.mpr ⟨prints_expr value h.1.1, hmore⟩)
  | trunc value length =>
    rw [Expr.wellFormed, Bool.and_eq_true] at h
    have hcall : Function.call? .trunc [value, length] = some (.trunc value length) := rfl
    exact spells_call level hcall
      (forall_mem_pair (prints_expr value h.1) (prints_expr length h.2))
  | convert conversion value =>
    have hcall : Function.call? (.convert conversion) [value] =
        some (.convert conversion value) := rfl
    exact spells_call level hcall (List.forall_mem_singleton.mpr (prints_expr value h))
  | pad value width =>
    rw [Expr.wellFormed, Bool.and_eq_true] at h
    have hcall : Function.call? .pad [value, width] = some (.pad value width) := rfl
    exact spells_call level hcall
      (forall_mem_pair (prints_expr value h.1) (prints_expr width h.2))
  | episodes width =>
    have hcall : Function.call? .episodes [width] = some (.episodes width) := rfl
    exact spells_call level hcall (List.forall_mem_singleton.mpr (prints_expr width h))
  | len operand =>
    have hcall : Function.call? .len [operand] = some (.len operand) := rfl
    exact spells_call level hcall (List.forall_mem_singleton.mpr (prints_expr operand h))
  | has source filters =>
    simp only [Expr.wellFormed, Bool.and_eq_true, Bool.not_eq_true'] at h
    obtain ⟨⟨⟨hsource, hne⟩, hkeywords⟩, hfilters⟩ := h
    -- Only the first filter may be a value; an `and` before another one would be read as its own.
    cases filters with
    | nil => cases hne
    | cons filter filters =>
      have hfilter := prints_filters (filter :: filters) hfilters filter List.mem_cons_self
      obtain ⟨is, his, hspells⟩ : ∃ is, chainKinds (filter :: filters) = filter.kinds ++ is ∧
          Phrase.moreFilters.Spells is filters := spells_chainKinds hkeywords
      rw [Expr.kinds, his]
      exact spells_enclose level (.has (prints_expr source hsource .selection) hfilter hspells)

theorem prints_parts (parts : List Expr) (h : Expr.allWellFormed parts = true) :
    ∀ part ∈ parts, Prints part := by
  cases parts with
  | nil => simp
  | cons part parts =>
    rw [Expr.allWellFormed, Bool.and_eq_true] at h
    exact List.forall_mem_cons.mpr ⟨prints_expr part h.1, prints_parts parts h.2⟩

theorem prints_filters (filters : List Filter) (h : Expr.filtersWellFormed filters = true) :
    ∀ filter ∈ filters, Phrase.filter.Spells filter.kinds filter := by
  cases filters with
  | nil => simp
  | cons filter filters =>
    cases filter with
    | language language =>
      exact List.forall_mem_cons.mpr
        ⟨.keyword (keywordFilter?_languageName language), prints_filters filters h⟩
    | titleKind kind =>
      exact List.forall_mem_cons.mpr
        ⟨.keyword (keywordFilter?_titleKindName kind), prints_filters filters h⟩
    | text wanted =>
      rw [Expr.filtersWellFormed, Bool.and_eq_true] at h
      exact List.forall_mem_cons.mpr
        ⟨.wanted (prints_expr wanted h.1 .primary), prints_filters filters h.2⟩

end

/-! ## What tokens spell is well formed -/

/-- Whether what a phrase stands for can be printed. -/
def MeaningWellFormed : (phrase : Phrase) → phrase.Meaning → Prop
  | .expr _, e => e.wellFormed = true
  | .moreParts, parts => Expr.allWellFormed parts = true
  | .filter, filter => Expr.filtersWellFormed [filter] = true
  | .moreFilters, filters => filters.all Filter.isKeyword = true
  | .arguments, arguments => Expr.allWellFormed arguments = true
  | .operands, parts => Expr.allWellFormed parts = true

theorem isKeyword_of_keyword? {k : TokenKind} {filter : Filter} (h : keyword? k = some filter) :
    filter.isKeyword = true := by
  cases k with
  | word name =>
    rcases name_of_keywordFilter? h with ⟨language, -, rfl⟩ | ⟨kind, -, rfl⟩
    · rfl
    · rfl
  | _ => cases h

theorem filtersWellFormed_of_keywords {filters : List Filter}
    (h : filters.all Filter.isKeyword = true) : Expr.filtersWellFormed filters = true := by
  induction filters with
  | nil => rfl
  | cons filter filters ih =>
    rw [List.all_cons, Bool.and_eq_true] at h
    cases filter with
    | text wanted => exact absurd h.1 Bool.false_ne_true
    | _ => exact ih h.2

/-- Keywords behind a filter leave it to the filter whether the chain can be printed. -/
theorem filtersWellFormed_cons {filter : Filter} {filters : List Filter}
    (hfilter : Expr.filtersWellFormed [filter] = true)
    (hfilters : filters.all Filter.isKeyword = true) :
    Expr.filtersWellFormed (filter :: filters) = true := by
  have hrest := filtersWellFormed_of_keywords hfilters
  cases filter with
  | text wanted =>
    rw [Expr.filtersWellFormed, Bool.and_eq_true] at hfilter ⊢
    exact ⟨hfilter.1, hrest⟩
  | _ => exact hrest

theorem wellFormed_of_call? {function : Function} {arguments : List Expr} {e : Expr}
    (hcall : function.call? arguments = some e) (h : Expr.allWellFormed arguments = true) :
    e.wellFormed = true := by
  unfold Function.call? at hcall
  -- One case for each number of arguments that each function takes.
  split at hcall <;> cases hcall <;>
    simp_all [Expr.wellFormed, Expr.allWellFormed]

/-- Phrases that tokens spell can be printed. -/
theorem wellFormed_of_spells {phrase : Phrase} {ks : List TokenKind} {meaning : phrase.Meaning}
    (h : phrase.Spells ks meaning) : MeaningWellFormed phrase meaning := by
  induction h with
  | tighter _ _ ih => exact ih
  | or _ _ _ ihLeft ihRight => exact Bool.and_eq_true_iff.mpr ⟨ihLeft, ihRight⟩
  | and _ _ _ ihLeft ihRight => exact Bool.and_eq_true_iff.mpr ⟨ihLeft, ihRight⟩
  | not _ _ ih => exact ih
  | compare _ _ _ ihLeft ihRight => exact Bool.and_eq_true_iff.mpr ⟨ihLeft, ihRight⟩
  | @concat ks js part parts hne _ _ ihPart ihParts =>
    have hlength : 2 ≤ (part :: parts).length :=
      Nat.succ_le_succ (List.length_pos_iff.mpr hne)
    exact Bool.and_eq_true_iff.mpr
      ⟨decide_eq_true hlength, Bool.and_eq_true_iff.mpr ⟨ihPart, ihParts⟩⟩
  | @has ks js is source filter filters _ _ _ ihSource ihFilter ihFilters =>
    have hfilters := filtersWellFormed_cons ihFilter ihFilters
    have hsource : source.wellFormed = true := ihSource
    have hkeywords : filters.all Filter.isKeyword = true := ihFilters
    show (source.has (filter :: filters)).wellFormed = true
    simp only [Expr.wellFormed, hsource, hfilters, List.tail_cons, hkeywords, List.isEmpty_cons,
      Bool.not_false, Bool.and_self]
  | text => rfl
  | number => rfl
  | flag => rfl
  | label => rfl
  | group _ ih => exact ih
  | call hcall _ ih => exact wellFormed_of_call? hcall ih
  | noParts => rfl
  | part _ _ ihPart ihParts => exact Bool.and_eq_true_iff.mpr ⟨ihPart, ihParts⟩
  | keyword hk =>
    exact filtersWellFormed_of_keywords (by simp [isKeyword_of_keyword? hk])
  | wanted _ ih => exact Bool.and_eq_true_iff.mpr ⟨ih, rfl⟩
  | noFilters => rfl
  | andKeyword _ hk _ ih =>
    exact Bool.and_eq_true_iff.mpr ⟨isKeyword_of_keyword? hk, ih⟩
  | noArguments => rfl
  | lastArgument _ ih => exact Bool.and_eq_true_iff.mpr ⟨ih, rfl⟩
  | argument _ _ _ ih ihMore => exact Bool.and_eq_true_iff.mpr ⟨ih, ihMore⟩
  | noOperands => rfl
  | operand _ _ ihPart ihParts => exact Bool.and_eq_true_iff.mpr ⟨ihPart, ihParts⟩

/-! ## Every token of a phrase can be spelt -/

theorem isSpelt_of_mem {words : List TokenKind} (hwords : words.all isSpelt = true) {k : TokenKind}
    (hk : k ∈ words) : isSpelt k = true :=
  List.all_eq_true.mp hwords k hk

theorem isSpelt_reserved {name : String} (h : name ∈ reserved) : isSpelt (.word name) = true :=
  (isCased_reserved h).1

theorem isSpelt_of_comparison? {k : TokenKind} {comparison : Comparison}
    (h : comparison? k = some comparison) : isSpelt k = true := by
  cases k with
  | word name => cases h
  | _ => rfl

theorem isSpelt_of_keyword? {k : TokenKind} {filter : Filter} (h : keyword? k = some filter) :
    isSpelt k = true := by
  cases k with
  | word name => exact isName_of_keywordFilter? h
  | _ => rfl

theorem isSpelt_of_spells {phrase : Phrase} {ks : List TokenKind} {meaning : phrase.Meaning}
    (h : phrase.Spells ks meaning) : ks.all isSpelt = true := by
  induction h with
  | tighter _ _ ih => exact ih
  | or hk _ _ ihLeft ihRight =>
    have hor := isSpelt_of_mem (by decide) hk
    simp [ihLeft, ihRight, hor]
  | and hk _ _ ihLeft ihRight =>
    have hand := isSpelt_of_mem (by decide) hk
    simp [ihLeft, ihRight, hand]
  | not hk _ ih =>
    have hnot := isSpelt_of_mem (by decide) hk
    simp [ih, hnot]
  | compare hk _ _ ihLeft ihRight => simp [ihLeft, ihRight, isSpelt_of_comparison? hk]
  | concat _ _ _ ihPart ihParts => simp [ihPart, ihParts]
  | has _ _ _ ihSource ihFilter ihFilters =>
    have hhas : isSpelt (.word "has") = true := isSpelt_reserved (by simp [reserved])
    simp [ihSource, ihFilter, ihFilters, hhas]
  | text => rfl
  | number => rfl
  | flag value => simp [isSpelt, (isOperandWord_flagName value).is_name]
  | label label => simp [isSpelt, (isOperandWord_labelName label).is_name]
  | group _ ih => simp [ih, isSpelt]
  | @call function _ _ _ _ _ ih => simp [ih, isSpelt, (isOperandWord_functionName function).is_name]
  | noParts => rfl
  | part _ _ ihPart ihParts => simp [ihPart, ihParts, isSpelt]
  | keyword hk => simp [isSpelt_of_keyword? hk]
  | wanted _ ih => exact ih
  | noFilters => rfl
  | andKeyword hj hk _ ih =>
    have hand := isSpelt_of_mem (by decide) hj
    simp [ih, hand, isSpelt_of_keyword? hk]
  | noArguments => rfl
  | lastArgument _ ih => simp [ih, isSpelt]
  | argument _ _ _ ih ihMore => simp [ih, ihMore, isSpelt]
  | noOperands => rfl
  | operand _ _ ihPart ihParts => simp [ihPart, ihParts]

end Printing

end MediaNaming
