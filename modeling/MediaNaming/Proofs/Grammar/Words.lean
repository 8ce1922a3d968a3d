import MediaNaming.Script.Parser

/-!
# The words of scripts

The reserved words, the names of functions, the names of labels, the two flags and the keywords of
filters are told apart by their spelling, and each of them is read as one word.
-/

namespace MediaNaming.Grammar

open MediaNaming.Parser

/-! ## Names -/

/-- Whether the characters are read as one word. -/
def isName (name : String) : Bool :=
  name.toList.head?.any Lexer.isWordStart && name.toList.all Lexer.isWordChar

/--
A name that starts with a capital or, as `capital` says, with none. Labels and keywords start with
one, all other words of scripts do not.
-/
def IsCased (capital : Bool) (name : String) : Prop :=
  isName name = true ∧ name.toList.head?.any Char.isUpper = capital

/-- The check on the characters, which literals are unified with. -/
theorem isCased_ofList {capital : Bool} {cs : List Char}
    (hname : (cs.head?.any Lexer.isWordStart && cs.all Lexer.isWordChar) = true)
    (hcapital : cs.head?.any Char.isUpper = capital) : IsCased capital (String.ofList cs) := by
  unfold IsCased isName
  rw [String.toList_ofList]
  exact ⟨hname, hcapital⟩

theorem ne_of_isCased {left right : String} (hleft : IsCased true left)
    (hright : IsCased false right) : left ≠ right := by
  intro heq
  have hcapital := hleft.2
  rw [heq, hright.2] at hcapital
  cases hcapital

/-- The word for a flag. -/
def flagName : Bool → String
  | true => "true"
  | false => "false"

theorem isCased_reserved {name : String} (h : name ∈ reserved) : IsCased false name := by
  simp only [reserved, List.mem_cons, List.not_mem_nil, or_false] at h
  rcases h with rfl | rfl | rfl | rfl | rfl | rfl | rfl | rfl | rfl | rfl | rfl | rfl | rfl |
    rfl <;> exact isCased_ofList (by decide) (by decide)

theorem isCased_functionName (function : Function) : IsCased false function.name := by
  cases function with
  | convert conversion => cases conversion <;> exact isCased_ofList (by decide) (by decide)
  | _ => exact isCased_ofList (by decide) (by decide)

theorem isCased_flagName (value : Bool) : IsCased false (flagName value) := by
  cases value <;> exact isCased_ofList (by decide) (by decide)

theorem isCased_labelName (label : Label) : IsCased true label.name := by
  rcases label with label | label | label | label <;>
    cases label <;> exact isCased_ofList (by decide) (by decide)

theorem isCased_languageName (language : Language) : IsCased true language.name := by
  cases language <;> exact isCased_ofList (by decide) (by decide)

theorem isCased_titleKindName (kind : TitleKind) : IsCased true kind.name := by
  cases kind <;> exact isCased_ofList (by decide) (by decide)

/-! ## Words apart -/

section Cased

variable {name : String}

theorem not_reserved_of_capital (h : IsCased true name) : reserved.contains name = false := by
  simp only [List.contains_eq_mem, decide_eq_false_iff_not]
  intro hmem
  exact ne_of_isCased h (isCased_reserved hmem) rfl

theorem ofName?_of_capital (h : IsCased true name) : Function.ofName? name = none := by
  apply List.find?_eq_none.mpr
  intro function _
  simpa using (ne_of_isCased h (isCased_functionName function)).symm

theorem keywordFilter?_of_not_capital (h : IsCased false name) : keywordFilter? name = none := by
  -- Languages and kinds of titles all start with a capital.
  have hlanguage : Language.ofName? name = none := by
    apply List.find?_eq_none.mpr
    intro language _
    simpa using ne_of_isCased (isCased_languageName language) h
  have hkind : TitleKind.ofName? name = none := by
    apply List.find?_eq_none.mpr
    intro kind _
    simpa using ne_of_isCased (isCased_titleKindName kind) h
  rw [keywordFilter?, hlanguage, hkind]
  rfl

end Cased

/-- The spellings that their first letter does not tell apart. -/
structure WordsApart : Prop where
  functions : ∀ function ∈ Function.all, reserved.contains function.name = false ∧
    Function.ofName? function.name = some function
  flags : ∀ value, reserved.contains (flagName value) = false ∧
    Function.ofName? (flagName value) = none
  labels : ∀ label ∈ Label.all, (keywordFilter? label.name).isNone = true
  titleKinds : ∀ kind ∈ TitleKind.all, Language.ofName? kind.name = none

theorem words_apart : WordsApart where
  functions := by decide +kernel
  flags := by decide +kernel
  labels := by decide +kernel
  titleKinds := by decide +kernel

/-- The words that an operand can start with: they are neither reserved nor a filter. -/
structure IsOperandWord (name : String) : Prop where
  not_reserved : reserved.contains name = false
  not_keyword : keywordFilter? name = none
  is_name : isName name = true

/-! ## Functions -/

theorem mem_all_functions (function : Function) : function ∈ Function.all := by
  cases function with
  | convert conversion => cases conversion <;> simp [Function.all]
  | _ => simp [Function.all]

theorem ofName?_functionName (function : Function) :
    Function.ofName? function.name = some function :=
  (words_apart.functions function (mem_all_functions function)).2

theorem functionName_of_ofName? {name : String} {function : Function}
    (h : Function.ofName? name = some function) : function.name = name := by
  simpa using List.find?_some h

theorem isOperandWord_functionName (function : Function) : IsOperandWord function.name where
  not_reserved := (words_apart.functions function (mem_all_functions function)).1
  not_keyword := keywordFilter?_of_not_capital (isCased_functionName function)
  is_name := (isCased_functionName function).1

/-! ## Labels -/

theorem isOperandWord_labelName (label : Label) : IsOperandWord label.name where
  not_reserved := not_reserved_of_capital (isCased_labelName label)
  not_keyword := Option.isNone_iff_eq_none.mp (words_apart.labels label label.mem_all)
  is_name := (isCased_labelName label).1

theorem ofName?_labelName (label : Label) : Function.ofName? label.name = none :=
  ofName?_of_capital (isCased_labelName label)

theorem labelName_ne_flagName (label : Label) (value : Bool) : label.name ≠ flagName value :=
  ne_of_isCased (isCased_labelName label) (isCased_flagName value)

/-! ## Flags -/

theorem isOperandWord_flagName (value : Bool) : IsOperandWord (flagName value) where
  not_reserved := (words_apart.flags value).1
  not_keyword := keywordFilter?_of_not_capital (isCased_flagName value)
  is_name := (isCased_flagName value).1

theorem ofName?_flagName (value : Bool) : Function.ofName? (flagName value) = none :=
  (words_apart.flags value).2

/-! ## Words that are an operand alone -/

@[simp] theorem wordValue_flagName (value : Bool) (position : Position) :
    wordValue (flagName value) position = .ok (.flag value) := by
  cases value <;> rfl

@[simp] theorem wordValue_labelName (label : Label) (position : Position) :
    wordValue label.name position = .ok (.label label) := by
  have htrue : label.name ≠ "true" := labelName_ne_flagName label true
  have hfalse : label.name ≠ "false" := labelName_ne_flagName label false
  simp only [wordValue, htrue, hfalse, if_false, Label.ofName?_name]

theorem name_of_wordValue {name : String} {position : Position} {e : Expr}
    (h : wordValue name position = .ok e) :
    (∃ value, name = flagName value ∧ e = .flag value) ∨
      ∃ label : Label, name = label.name ∧ e = .label label := by
  simp only [wordValue] at h
  split at h
  · next htrue => exact .inl ⟨true, htrue, by cases h; rfl⟩
  · split at h
    · next hfalse => exact .inl ⟨false, hfalse, by cases h; rfl⟩
    · split at h
      · next label hlabel =>
        exact .inr ⟨label, (Label.name_of_ofName? hlabel).symm, by cases h; rfl⟩
      · -- Without a label, all that is left are errors.
        split at h
        · cases h
        · split at h <;> cases h

/-! ## Filters -/

theorem ofName?_titleKindName (kind : TitleKind) : Language.ofName? kind.name = none := by
  have hmem : kind ∈ TitleKind.all := List.mem_of_find?_eq_some (TitleKind.ofName?_name kind)
  exact words_apart.titleKinds kind hmem

@[simp] theorem keywordFilter?_languageName (language : Language) :
    keywordFilter? language.name = some (.language language) := by
  simp [keywordFilter?]

@[simp] theorem keywordFilter?_titleKindName (kind : TitleKind) :
    keywordFilter? kind.name = some (.titleKind kind) := by
  simp [keywordFilter?, ofName?_titleKindName]

/-- A filter that is a keyword is a language or a kind of titles. -/
theorem name_of_keywordFilter? {name : String} {filter : Filter}
    (h : keywordFilter? name = some filter) :
    (∃ language : Language, name = language.name ∧ filter = .language language) ∨
      ∃ kind : TitleKind, name = kind.name ∧ filter = .titleKind kind := by
  simp only [keywordFilter?] at h
  split at h
  · next language hlanguage =>
    exact .inl ⟨language, (Language.name_of_ofName? hlanguage).symm, by cases h; rfl⟩
  · obtain ⟨kind, hkind, rfl⟩ := Option.map_eq_some_iff.mp h
    exact .inr ⟨kind, (TitleKind.name_of_ofName? hkind).symm, rfl⟩

theorem isName_of_keywordFilter? {name : String} {filter : Filter}
    (h : keywordFilter? name = some filter) : isName name = true := by
  rcases name_of_keywordFilter? h with ⟨language, rfl, -⟩ | ⟨kind, rfl, -⟩
  · exact (isCased_languageName language).1
  · exact (isCased_titleKindName kind).1

end MediaNaming.Grammar
