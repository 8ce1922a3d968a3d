import MediaNaming.Proofs.Grammar.Soundness

/-!
# The atoms of scripts

Literals, labels and the keywords of filters, in the order in which a script and the program that is
read from it have them. Reading keeps them all, adds none and leaves them in their order; only a
call of `episodes` without an argument gets a width that the script does not have.
-/

namespace MediaNaming

open MediaNaming.Parser Grammar

/-! ## Atoms -/

/-- What tells programs of the same shape apart. -/
inductive Atom where
  | text (value : String)
  | number (value : Int64)
  | flag (value : Bool)
  | label (label : Label)
  | language (language : Language)
  | titleKind (kind : TitleKind)
deriving DecidableEq

namespace Atom

def text? : Atom → Option String
  | text value => some value
  | _ => none

def number? : Atom → Option Int64
  | number value => some value
  | _ => none

def label? : Atom → Option Label
  | label found => some found
  | _ => none

/-- The filter that the atom is the keyword of. -/
def keyword? : Atom → Option Filter
  | language wanted => some (.language wanted)
  | titleKind kind => some (.titleKind kind)
  | _ => none

end Atom

/-! ### Of programs -/

mutual

/-- The atoms of an expression from left to right: the source of a `has` before its filters, the
arguments of a call in order. -/
def Expr.atoms : Expr → List Atom
  | .flag value => [.flag value]
  | .text value => [.text value]
  | .number value => [.number value]
  | .label label => [.label label]
  | .not operand => operand.atoms
  | .and left right => left.atoms ++ right.atoms
  | .or left right => left.atoms ++ right.atoms
  | .compare _ left right => left.atoms ++ right.atoms
  | .concat parts => atomsOfAll parts
  | .first collection => collection.atoms
  | .rest value start => value.atoms ++ start.atoms
  | .substr value start length => value.atoms ++ (start.atoms ++ length.atoms)
  | .trunc value length => value.atoms ++ length.atoms
  | .convert _ value => value.atoms
  | .pad value width => value.atoms ++ width.atoms
  | .episodes width => width.atoms
  | .len operand => operand.atoms
  | .has source filters => source.atoms ++ atomsOfFilters filters

def atomsOfAll : List Expr → List Atom
  | [] => []
  | part :: parts => part.atoms ++ atomsOfAll parts

def Filter.atoms : Filter → List Atom
  | .language language => [.language language]
  | .titleKind kind => [.titleKind kind]
  | .text wanted => wanted.atoms

def atomsOfFilters : List Filter → List Atom
  | [] => []
  | filter :: filters => filter.atoms ++ atomsOfFilters filters

end

mutual

/-- The atoms of a statement from left to right: what is replaced before what it is replaced by. -/
def Statement.atoms : Statement → List Atom
  | .choose branches => branches.atoms
  | .set _ parts => atomsOfAll parts
  | .add _ parts => atomsOfAll parts
  | .replace _ pattern image => pattern.atoms ++ image.atoms
  | .skip => []
  | .cancel parts => atomsOfAll parts

/-- Each condition comes before its body, and what is done otherwise comes last. -/
def Branches.atoms : Branches → List Atom
  | .done => []
  | .otherwise body => atomsOfBody body
  | .branch condition body rest => condition.atoms ++ (atomsOfBody body ++ rest.atoms)

def atomsOfBody : List Statement → List Atom
  | [] => []
  | statement :: statements => statement.atoms ++ atomsOfBody statements

end

def Program.atoms (program : Program) : List Atom :=
  atomsOfBody program.statements

/-! ### Of tokens -/

namespace TokenKind

def text? : TokenKind → Option String
  | text value => some value
  | _ => none

def number? : TokenKind → Option Int64
  | number value => some value
  | _ => none

/-- The label that the token is the name of. -/
def label? : TokenKind → Option Label
  | word name => Label.ofName? name
  | _ => none

/-- The atom that the token stands for by itself. -/
def atom? : TokenKind → Option Atom
  | text value => some (.text value)
  | number value => some (.number value)
  | word name =>
    if name = "true" then some (.flag true)
    else if name = "false" then some (.flag false)
    else
      ((Label.ofName? name).map .label <|> (Language.ofName? name).map .language) <|>
        (TitleKind.ofName? name).map .titleKind
  | punctuation _ => none

end TokenKind

namespace Grammar

/-! ## Words -/

section Words

@[simp] theorem atom?_flagName (value : Bool) :
    (TokenKind.word (flagName value)).atom? = some (.flag value) := by
  cases value <;> rfl

theorem atom?_of_not_flag {name : String} (h : ∀ value, name ≠ flagName value) :
    (TokenKind.word name).atom? =
      (((Label.ofName? name).map .label <|> (Language.ofName? name).map .language) <|>
        (TitleKind.ofName? name).map .titleKind) := by
  have htrue : name ≠ "true" := h true
  have hfalse : name ≠ "false" := h false
  rw [TokenKind.atom?, if_neg htrue, if_neg hfalse]

@[simp] theorem atom?_labelName (label : Label) :
    (TokenKind.word label.name).atom? = some (.label label) := by
  rw [atom?_of_not_flag (labelName_ne_flagName label), Label.ofName?_name]
  rfl

/-- No label is called like a filter. -/
theorem label?_of_keywordFilter? {name : String} {filter : Filter}
    (h : keywordFilter? name = some filter) : Label.ofName? name = none := by
  refine Option.eq_none_iff_forall_ne_some.mpr fun label hlabel => ?_
  obtain rfl := Label.name_of_ofName? hlabel
  rw [(isOperandWord_labelName label).not_keyword] at h
  cases h

@[simp] theorem atom?_languageName (language : Language) :
    (TokenKind.word language.name).atom? = some (.language language) := by
  have hflag value := ne_of_isCased (isCased_languageName language) (isCased_flagName value)
  rw [atom?_of_not_flag hflag, label?_of_keywordFilter? (keywordFilter?_languageName language),
    Language.ofName?_name]
  rfl

@[simp] theorem atom?_titleKindName (kind : TitleKind) :
    (TokenKind.word kind.name).atom? = some (.titleKind kind) := by
  have hflag value := ne_of_isCased (isCased_titleKindName kind) (isCased_flagName value)
  rw [atom?_of_not_flag hflag, label?_of_keywordFilter? (keywordFilter?_titleKindName kind),
    ofName?_titleKindName, TitleKind.ofName?_name]
  rfl

theorem atom?_reserved {name : String} (h : name ∈ reserved) :
    (TokenKind.word name).atom? = none := by
  have hall : ∀ name ∈ reserved, (TokenKind.word name).atom? = none := by decide +kernel
  exact hall name h

@[simp] theorem atom?_functionName (function : Function) :
    (TokenKind.word function.name).atom? = none := by
  have hall : ∀ function ∈ Function.all, (TokenKind.word function.name).atom? = none := by
    decide +kernel
  exact hall function (mem_all_functions function)

end Words

/-! ## What is picked from the tokens -/

/-- The tokens of a call of `episodes` without an argument. -/
def emptyCall : List TokenKind :=
  [.word "episodes", .punctuation .openParen, .punctuation .closeParen]

section Picks

variable {α : Type} {pick : Atom → Option α} {k : TokenKind} {ks js : List TokenKind}
  {atoms more : List Atom}

/-- What `pick` makes of the atoms that tokens stand for is what it makes of these atoms. -/
def PicksAlike (pick : Atom → Option α) (ks : List TokenKind) (atoms : List Atom) : Prop :=
  ks.filterMap (fun k => k.atom?.bind pick) = atoms.filterMap pick

theorem PicksAlike.nil : PicksAlike pick [] [] := rfl

theorem PicksAlike.append (h : PicksAlike pick ks atoms) (hmore : PicksAlike pick js more) :
    PicksAlike pick (ks ++ js) (atoms ++ more) := by
  unfold PicksAlike at *
  rw [List.filterMap_append, List.filterMap_append, h, hmore]

/-- A token that is no atom is passed over. -/
theorem PicksAlike.cons (hk : k.atom? = none) (h : PicksAlike pick ks atoms) :
    PicksAlike pick (k :: ks) atoms := by
  unfold PicksAlike at *
  rw [List.filterMap_cons, hk, Option.bind_none, h]

theorem PicksAlike.singleton {atom : Atom} (hk : k.atom? = some atom) :
    PicksAlike pick [k] [atom] := by
  unfold PicksAlike
  rw [List.filterMap_cons, List.filterMap_cons, hk, Option.bind_some]
  rfl

theorem PicksAlike.of_atom?_eq_none (h : ∀ k ∈ ks, k.atom? = none) : PicksAlike pick ks [] := by
  refine List.filterMap_eq_nil_iff.mpr fun k hk => ?_
  rw [h k hk, Option.bind_none]

/-- A width that is made up is not picked, or there is none. -/
def FillsNothing (pick : Atom → Option α) (ks : List TokenKind) : Prop :=
  pick (.number 0) = none ∨ ¬ emptyCall <:+: ks

theorem FillsNothing.append (h : FillsNothing pick (ks ++ js)) :
    FillsNothing pick ks ∧ FillsNothing pick js :=
  ⟨h.imp_right fun hnone hcall => hnone (hcall.trans (List.prefix_append ks js).isInfix),
    h.imp_right fun hnone hcall => hnone (hcall.trans (List.suffix_append ks js).isInfix)⟩

theorem FillsNothing.tail (h : FillsNothing pick (k :: ks)) : FillsNothing pick ks :=
  h.imp_right fun hnone hcall => hnone (hcall.trans (List.suffix_cons k ks).isInfix)

end Picks

/-! ## Atoms of expressions -/

/-- The atoms of what a phrase stands for. -/
def Phrase.atoms : (phrase : Phrase) → phrase.Meaning → List Atom
  | .expr _, e => e.atoms
  | .moreParts, parts => atomsOfAll parts
  | .filter, wanted => Filter.atoms wanted
  | .moreFilters, filters => atomsOfFilters filters
  | .arguments, exprs => atomsOfAll exprs
  | .operands, parts => atomsOfAll parts

/-- The keyword of a filter stands for its only atom. -/
theorem atom?_of_keyword? {k : TokenKind} {filter : Filter} (h : keyword? k = some filter) :
    ∃ atom, k.atom? = some atom ∧ filter.atoms = [atom] := by
  cases k with
  | word name =>
    rcases name_of_keywordFilter? h with ⟨language, rfl, rfl⟩ | ⟨kind, rfl, rfl⟩
    · exact ⟨_, atom?_languageName language, rfl⟩
    · exact ⟨_, atom?_titleKindName kind, rfl⟩
  | _ => cases h

/-- A call has the atoms of its arguments; without any, `episodes` is given a width. -/
theorem atoms_of_call? {function : Function} {arguments : List Expr} {e : Expr}
    (h : function.call? arguments = some e) :
    e.atoms = atomsOfAll arguments ∨
      function = .episodes ∧ arguments = [] ∧ e = .episodes (.number 0) := by
  unfold Function.call? at h
  split at h <;> cases h
  case h_8 => exact .inr ⟨rfl, rfl, rfl⟩
  all_goals exact .inl (by simp [Expr.atoms, atomsOfAll])

theorem atom?_of_mem_operators {k : TokenKind} (h : k ∈ orKinds ++ (andKinds ++ notKinds)) :
    k.atom? = none := by
  have hall : ∀ k ∈ orKinds ++ (andKinds ++ notKinds), k.atom? = none := by decide +kernel
  exact hall k h

theorem atom?_of_comparison? {k : TokenKind} {comparison : Comparison}
    (h : comparison? k = some comparison) : k.atom? = none := by
  cases k with
  | punctuation mark => rfl
  | _ => cases h

section Phrases

variable {α : Type} {pick : Atom → Option α}

/-- A call without arguments is the only one that brings in an atom. -/
theorem picksAlike_call {function : Function} {ks : List TokenKind} {arguments : List Expr}
    {e : Expr} (hcall : function.call? arguments = some e)
    (hspells : Phrase.arguments.Spells ks arguments)
    (h : PicksAlike pick ks (atomsOfAll arguments))
    (hfills : FillsNothing pick (.word function.name :: .punctuation .openParen :: ks)) :
    PicksAlike pick (.word function.name :: .punctuation .openParen :: ks) e.atoms := by
  refine .cons (atom?_functionName function) (.cons rfl ?_)
  rcases atoms_of_call? hcall with hatoms | ⟨rfl, rfl, rfl⟩
  · rwa [hatoms]
  · cases hspells with
    | noArguments =>
      have hzero : pick (.number 0) = none :=
        hfills.resolve_right fun hnone => hnone (List.infix_refl emptyCall)
      show PicksAlike pick [.punctuation .closeParen] [.number 0]
      unfold PicksAlike
      rw [List.filterMap_cons, List.filterMap_cons, hzero]
      rfl

/-- The tokens of a phrase stand for its atoms. -/
theorem picksAlike_of_spells {phrase : Phrase} {ks : List TokenKind} {meaning : phrase.Meaning}
    (h : phrase.Spells ks meaning) (hfills : FillsNothing pick ks) :
    PicksAlike pick ks (phrase.atoms meaning) := by
  induction h with
  | tighter _ _ ih => exact ih hfills
  | or hk _ _ ihLeft ihRight =>
    obtain ⟨hleft, hright⟩ := hfills.append
    have hatom := atom?_of_mem_operators (List.mem_append_left _ hk)
    exact (ihLeft hleft).append (.cons hatom (ihRight hright.tail))
  | and hk _ _ ihLeft ihRight =>
    obtain ⟨hleft, hright⟩ := hfills.append
    have hatom := atom?_of_mem_operators (List.mem_append_right _ (List.mem_append_left _ hk))
    exact (ihLeft hleft).append (.cons hatom (ihRight hright.tail))
  | not hk _ ih =>
    have hatom := atom?_of_mem_operators (List.mem_append_right _ (List.mem_append_right _ hk))
    exact .cons hatom (ih hfills.tail)
  | compare hk _ _ ihLeft ihRight =>
    obtain ⟨hleft, hright⟩ := hfills.append
    exact (ihLeft hleft).append (.cons (atom?_of_comparison? hk) (ihRight hright.tail))
  | concat _ _ _ ihPart ihParts =>
    obtain ⟨hpart, hparts⟩ := hfills.append
    exact (ihPart hpart).append (ihParts hparts)
  | has _ _ _ ihSource ihFilter ihFilters =>
    obtain ⟨hsource, hmore⟩ := hfills.append
    obtain ⟨hfilter, hfilters⟩ := hmore.tail.append
    have hatom : (TokenKind.word "has").atom? = none := atom?_reserved (by simp [reserved])
    exact (ihSource hsource).append (.cons hatom ((ihFilter hfilter).append (ihFilters hfilters)))
  | text value => exact .singleton rfl
  | number value => exact .singleton rfl
  | flag value => exact .singleton (atom?_flagName value)
  | label label => exact .singleton (atom?_labelName label)
  | group _ ih =>
    have hclosed : PicksAlike pick [.punctuation .closeParen] [] := .cons rfl .nil
    have hinner := (ih hfills.tail.append.1).append hclosed
    rw [List.append_nil] at hinner
    exact .cons rfl hinner
  | call hcall hspells ih =>
    exact picksAlike_call hcall hspells (ih hfills.tail.tail) hfills
  | noParts => exact .nil
  | part _ _ ihPart ihParts =>
    obtain ⟨hpart, hparts⟩ := hfills.tail.append
    exact .cons rfl ((ihPart hpart).append (ihParts hparts))
  | keyword hk =>
    obtain ⟨atom, hatom, hatoms⟩ := atom?_of_keyword? hk
    rw [Phrase.atoms, hatoms]
    exact .singleton hatom
  | wanted _ ih => exact ih hfills
  | noFilters => exact .nil
  | andKeyword hj hk _ ih =>
    have hand := atom?_of_mem_operators (List.mem_append_right _ (List.mem_append_left _ hj))
    obtain ⟨atom, hatom, hatoms⟩ := atom?_of_keyword? hk
    have hmore : PicksAlike pick _ _ := ih hfills.tail.tail
    rw [Phrase.atoms, atomsOfFilters, hatoms]
    exact .cons hand (.append (.singleton hatom) hmore)
  | noArguments => exact .cons rfl .nil
  | lastArgument _ ih => exact (ih hfills.append.1).append (.cons rfl .nil)
  | argument _ _ _ ih ihMore =>
    obtain ⟨hargument, hmore⟩ := hfills.append
    exact (ih hargument).append (.cons rfl (ihMore hmore.tail))
  | noOperands => exact .nil
  | operand _ _ ihPart ihParts =>
    obtain ⟨hpart, hparts⟩ := hfills.append
    exact (ihPart hpart).append (ihParts hparts)

end Phrases

/-! ## Atoms of statements -/

theorem atom?_of_mem_targetKinds {target : Target} {k : TokenKind} (h : k ∈ targetKinds target) :
    k.atom? = none := by
  cases target <;> simp only [targetKinds, List.mem_singleton, List.not_mem_nil] at h <;>
    exact h ▸ atom?_reserved (by simp [reserved])

theorem atom?_of_mem_semicolons {n : Nat} {k : TokenKind} (h : k ∈ semicolons n) :
    k.atom? = none := by
  rw [List.eq_of_mem_replicate h]
  rfl

/-- The atoms of what a clause stands for. -/
def Clause.atoms : (clause : Clause) → clause.Meaning → List Atom
  | .statement, meaning => Statement.atoms meaning
  | .branches, meaning => Branches.atoms meaning
  | .others _, meaning => Branches.atoms meaning
  | .body, meaning => atomsOfBody meaning
  | .sequence _, meaning => atomsOfBody meaning

section Clauses

variable {α : Type} {pick : Atom → Option α}

theorem picksAlike_behind_target {target : Target} {name : String} {ks : List TokenKind}
    {atoms : List Atom} (hname : name ∈ reserved) (h : PicksAlike pick ks atoms) :
    PicksAlike pick (targetKinds target ++ .word name :: ks) atoms :=
  (PicksAlike.of_atom?_eq_none fun _ => atom?_of_mem_targetKinds).append
    (.cons (atom?_reserved hname) h)

theorem picksAlike_of_spellsAction {ks : List TokenKind} {statement : Statement} {more : Bool}
    (h : SpellsAction ks statement more) (hfills : FillsNothing pick ks) :
    PicksAlike pick ks statement.atoms := by
  cases h with
  | bare target _ hspells =>
    exact (PicksAlike.of_atom?_eq_none fun _ => atom?_of_mem_targetKinds).append
      (picksAlike_of_spells hspells hfills.append.2)
  | set target _ hspells =>
    exact picksAlike_behind_target (by simp [reserved])
      (picksAlike_of_spells hspells hfills.append.2.tail)
  | add target _ hspells =>
    exact picksAlike_behind_target (by simp [reserved])
      (picksAlike_of_spells hspells hfills.append.2.tail)
  | replace target hpattern himage =>
    obtain ⟨hfirst, hsecond⟩ := hfills.append.2.tail.append
    exact picksAlike_behind_target (by simp [reserved])
      ((picksAlike_of_spells hpattern hfirst).append (picksAlike_of_spells himage hsecond))
  | skip => exact .cons (atom?_reserved (by simp [reserved])) .nil
  | cancel hspells =>
    exact .cons (atom?_reserved (by simp [reserved])) (picksAlike_of_spells hspells hfills.tail)

/-- The tokens of a clause stand for its atoms, if those that close a sequence are none. -/
theorem picksAlike_of_clause {clause : Clause} {ks : List TokenKind} {meaning : clause.Meaning}
    {ending : Ending} (h : clause.Spells ks meaning ending)
    (hclosing : ∀ closing, clause = .sequence closing → ∀ k ∈ closing, k.atom? = none)
    (hfills : FillsNothing pick ks) : PicksAlike pick ks (clause.atoms meaning) := by
  have hif : (TokenKind.word "if").atom? = none := atom?_reserved (by simp [reserved])
  have helse : (TokenKind.word "else").atom? = none := atom?_reserved (by simp [reserved])
  induction h with
  | @action ks statement more n haction =>
    have hsemicolons : PicksAlike pick (semicolons n) [] :=
      .of_atom?_eq_none fun _ => atom?_of_mem_semicolons
    have hstatement := (picksAlike_of_spellsAction haction hfills.append.1).append hsemicolons
    rwa [List.append_nil] at hstatement
  | choose _ ih => exact .cons hif (ih (by simp) hfills.tail)
  | branch hcondition _ _ ihBody ihRest =>
    obtain ⟨hfirst, hmore⟩ := hfills.tail.append
    obtain ⟨hbody, hrest⟩ := hmore.tail.append
    exact .cons rfl ((picksAlike_of_spells hcondition hfirst).append
      (.cons rfl ((ihBody (by simp) hbody).append (ihRest (by simp) hrest))))
  | done => exact .nil
  | otherwise _ _ _ ih => exact .cons helse (ih (by simp) hfills.tail)
  | otherIf _ _ ih => exact .cons helse (.cons hif (ih (by simp) hfills.tail.tail))
  | braces _ ih =>
    refine .cons rfl (ih (fun closing heq k hk => ?_) hfills.tail)
    cases heq
    rw [List.mem_singleton.mp hk]
    rfl
  | single _ ih =>
    have hnothing : PicksAlike pick [] [] := .nil
    have hstatement := (ih (by simp) hfills).append hnothing
    rwa [List.append_nil] at hstatement
  | finish n =>
    exact (PicksAlike.of_atom?_eq_none fun _ => atom?_of_mem_semicolons).append
      (.of_atom?_eq_none (hclosing _ rfl))
  | next n _ _ _ ih ihMore =>
    obtain ⟨hstatement, hmore⟩ := hfills.append.2.append
    exact (PicksAlike.of_atom?_eq_none fun _ => atom?_of_mem_semicolons).append
      ((ih (by simp) hstatement).append (ihMore hclosing hmore))

end Clauses

end Grammar

/-! ## Atoms of scripts -/

/-- The tokens stand for these atoms in this order, sort by sort; and, where no call of `episodes`
lacks its argument, for the numbers too and for all of them together. -/
structure HasAtoms (ks : List TokenKind) (atoms : List Atom) : Prop where
  texts : ks.filterMap TokenKind.text? = atoms.filterMap Atom.text?
  labels : ks.filterMap TokenKind.label? = atoms.filterMap Atom.label?
  keywords : ks.filterMap keyword? = atoms.filterMap Atom.keyword?
  numbers : ¬ emptyCall <:+: ks →
    ks.filterMap TokenKind.number? = atoms.filterMap Atom.number?
  all : ¬ emptyCall <:+: ks → ks.filterMap TokenKind.atom? = atoms

section Sorts

/-- A word is a flag, a label or a keyword, or no atom of any sort. -/
theorem word_sorts (name : String) :
    (∃ value, name = flagName value) ∨ (∃ label : Label, name = label.name) ∨
      (∃ language : Language, name = language.name) ∨ (∃ kind : TitleKind, name = kind.name) ∨
      (TokenKind.word name).atom? = none ∧ Label.ofName? name = none ∧
        keywordFilter? name = none := by
  by_cases hflag : ∃ value, name = flagName value
  · exact .inl hflag
  cases hlabel : Label.ofName? name with
  | some label => exact .inr (.inl ⟨label, (Label.name_of_ofName? hlabel).symm⟩)
  | none =>
    cases hkeyword : keywordFilter? name with
    | some filter =>
      rcases name_of_keywordFilter? hkeyword with ⟨language, rfl, -⟩ | ⟨kind, rfl, -⟩
      · exact .inr (.inr (.inl ⟨language, rfl⟩))
      · exact .inr (.inr (.inr (.inl ⟨kind, rfl⟩)))
    | none =>
      refine .inr (.inr (.inr (.inr ⟨?_, rfl, rfl⟩)))
      have hlanguage : Language.ofName? name = none ∧ TitleKind.ofName? name = none := by
        unfold keywordFilter? at hkeyword
        split at hkeyword
        · cases hkeyword
        · next hnone => exact ⟨hnone, Option.map_eq_none_iff.mp hkeyword⟩
      rw [atom?_of_not_flag (not_exists.mp hflag), hlabel, hlanguage.1, hlanguage.2]
      rfl

theorem label?_flagName (value : Bool) : Label.ofName? (flagName value) = none :=
  Option.eq_none_iff_forall_ne_some.mpr fun label hlabel =>
    labelName_ne_flagName label value (Label.name_of_ofName? hlabel)

variable (k : TokenKind)

theorem atom?_bind_text? : k.atom?.bind Atom.text? = k.text? := by
  cases k with
  | word name =>
    rcases word_sorts name with ⟨value, rfl⟩ | ⟨label, rfl⟩ | ⟨language, rfl⟩ | ⟨kind, rfl⟩ |
      ⟨hnone, -, -⟩
    all_goals simp [TokenKind.text?, Atom.text?, *]
  | _ => rfl

theorem atom?_bind_number? : k.atom?.bind Atom.number? = k.number? := by
  cases k with
  | word name =>
    rcases word_sorts name with ⟨value, rfl⟩ | ⟨label, rfl⟩ | ⟨language, rfl⟩ | ⟨kind, rfl⟩ |
      ⟨hnone, -, -⟩
    all_goals simp [TokenKind.number?, Atom.number?, *]
  | _ => rfl

theorem atom?_bind_label? : k.atom?.bind Atom.label? = k.label? := by
  cases k with
  | word name =>
    rcases word_sorts name with ⟨value, rfl⟩ | ⟨label, rfl⟩ | ⟨language, rfl⟩ | ⟨kind, rfl⟩ |
      ⟨hnone, hlabel, -⟩
    · simp [TokenKind.label?, Atom.label?, label?_flagName]
    · simp [TokenKind.label?, Atom.label?]
    · simp [TokenKind.label?, Atom.label?,
        label?_of_keywordFilter? (keywordFilter?_languageName language)]
    · simp [TokenKind.label?, Atom.label?,
        label?_of_keywordFilter? (keywordFilter?_titleKindName kind)]
    · simp [TokenKind.label?, hnone, hlabel]
  | _ => rfl

theorem atom?_bind_keyword? : k.atom?.bind Atom.keyword? = keyword? k := by
  cases k with
  | word name =>
    rcases word_sorts name with ⟨value, rfl⟩ | ⟨label, rfl⟩ | ⟨language, rfl⟩ | ⟨kind, rfl⟩ |
      ⟨hnone, -, hkeyword⟩
    · simp [keyword?, Atom.keyword?, (isOperandWord_flagName value).not_keyword]
    · simp [keyword?, Atom.keyword?, (isOperandWord_labelName label).not_keyword]
    · simp [keyword?, Atom.keyword?]
    · simp [keyword?, Atom.keyword?]
    · simp [keyword?, hnone, hkeyword]
  | _ => rfl

end Sorts

namespace Program

theorem hasAtoms_of_spells {ks : List TokenKind} {statements : List Statement} {ending : Ending}
    (h : (Clause.sequence []).Spells ks statements ending) :
    HasAtoms ks (atomsOfBody statements) := by
  have hpicks {α : Type} (pick : Atom → Option α) (hfills : FillsNothing pick ks) :
      ks.filterMap (fun k => k.atom?.bind pick) = (atomsOfBody statements).filterMap pick :=
    picksAlike_of_clause h (by simp) hfills
  refine ⟨?_, ?_, ?_, fun hnone => ?_, fun hnone => ?_⟩
  · simpa only [atom?_bind_text?] using hpicks Atom.text? (.inl rfl)
  · simpa only [atom?_bind_label?] using hpicks Atom.label? (.inl rfl)
  · simpa only [atom?_bind_keyword?] using hpicks Atom.keyword? (.inl rfl)
  · simpa only [atom?_bind_number?] using hpicks Atom.number? (.inr hnone)
  · simpa only [Option.bind_fun_some, List.filterMap_some] using hpicks some (.inr hnone)

/--
Whatever script a program is read from, its tokens stand for the atoms of the program: the texts,
the labels, the keywords of filters and, if no call of `episodes` lacks its argument, the numbers.
-/
theorem parse_keeps_atoms {script : String} {program : Program}
    (h : Program.parse script = .ok program) :
    ∃ list, Lexer.tokenize script = .ok list ∧
      HasAtoms (list.tokens.map Token.kind) program.atoms := by
  obtain ⟨list, hlist, hrest⟩ := bind_eq_ok_iff.mp h
  obtain ⟨statements, hstatements, hreturn⟩ := bind_eq_ok_iff.mp hrest
  cases hreturn
  obtain ⟨ending, hspells⟩ := spells_of_statements list.stop hstatements
  exact ⟨list, hlist, hasAtoms_of_spells hspells⟩

/--
Parentheses that are not needed, both spellings of an and, operands that are added without a verb, a
chain of filters and a body of one statement; the second script calls `episodes` without a width.
-/
theorem parse_keeps_atoms_of_choice :
    let script := "if ((not Restricted && true)) AnimeTitles has English and Main 'a' else " ++
      "replace substr(('b'), 1) + Width 'c' ; set len(AudioCodecs has 'd') -7"
    let widthless := "add episodes() episodes(3)"
    (∃ program list, Program.parse script = .ok program ∧ Lexer.tokenize script = .ok list ∧
      program.atoms = [.label (.flag .restricted), .flag true, .label (.collection .animeTitles),
        .language .english, .titleKind .main, .text "a", .text "b", .number 1,
        .label (.number .width), .text "c", .label (.collection .audioCodecs), .text "d",
        .number (-7)] ∧
      ¬ emptyCall <:+: list.tokens.map Token.kind ∧
      HasAtoms (list.tokens.map Token.kind) program.atoms) ∧
    ∃ program list, Program.parse widthless = .ok program ∧
      Lexer.tokenize widthless = .ok list ∧ program.atoms = [.number 0, .number 3] ∧
      (list.tokens.map Token.kind).filterMap TokenKind.number? = [3] ∧
      HasAtoms (list.tokens.map Token.kind) program.atoms := by
  intro script widthless
  constructor
  · have hread : (Program.parse script).toOption.map atoms =
        some [.label (.flag .restricted), .flag true, .label (.collection .animeTitles),
          .language .english, .titleKind .main, .text "a", .text "b", .number 1,
          .label (.number .width), .text "c", .label (.collection .audioCodecs), .text "d",
          .number (-7)] := by
      decide +kernel
    obtain ⟨program, hprogram, hatoms⟩ := exists_of_toOption_map hread
    obtain ⟨list, hlist, hkeeps⟩ := parse_keeps_atoms hprogram
    have hcall : (Lexer.tokenize script).toOption.map
        (fun list => decide (emptyCall <:+: list.tokens.map Token.kind)) = some false := by
      decide +kernel
    rw [hlist] at hcall
    exact ⟨program, list, hprogram, hlist, hatoms, of_decide_eq_false (Option.some.inj hcall),
      hkeeps⟩
  · have hread : (Program.parse widthless).toOption.map atoms = some [.number 0, .number 3] := by
      decide +kernel
    obtain ⟨program, hprogram, hatoms⟩ := exists_of_toOption_map hread
    obtain ⟨list, hlist, hkeeps⟩ := parse_keeps_atoms hprogram
    have hnumbers : (Lexer.tokenize widthless).toOption.map
        (fun list => (list.tokens.map Token.kind).filterMap TokenKind.number?) = some [3] := by
      decide +kernel
    rw [hlist] at hnumbers
    exact ⟨program, list, hprogram, hlist, hatoms, Option.some.inj hnumbers, hkeeps⟩

end Program

end MediaNaming
