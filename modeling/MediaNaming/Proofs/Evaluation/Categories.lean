import MediaNaming.Proofs.Results
import MediaNaming.Script.Eval

/-!
# Categories and values

Every expression belongs to a category, which can be read off it, and so can the kind of the
elements of a collection. Where the operands of an expression are of categories that suit it, it has
a value of its own category for every request, even for one that tells nothing about the file.
-/

namespace MediaNaming

/-! ## Categories that suit -/

/-- The kind of the elements of the collection that a label stands for. -/
def CollectionLabel.elementKind : CollectionLabel → String
  | animeTitles => "titles"
  | episodeTitles => "titles"
  | importFolders => "import folders"
  | audioCodecs => "strings"
  | dubLanguages => "languages"
  | subLanguages => "languages"

namespace Expr

/-- The kind of the elements of a collection: that of the label at the root of its `has` chain. -/
def elementKind? : Expr → Option String
  | .label (.collection l) => some l.elementKind
  | .has source _ => source.elementKind?
  | _ => none

def isFlag (expr : Expr) : Bool :=
  expr.category == .flag

def isCollection (expr : Expr) : Bool :=
  expr.category == .collection

/-- Whether the expression is a number that a text may be padded to. -/
def isWidth : Expr → Bool
  | .number width => decide (width ≤ maxWidth)
  | _ => false

end Expr

mutual

/--
Whether the operands of the expression, and those of its operands, are of categories that suit it:
no flag stands where a text or a number is wanted, only collections are filtered, by what their
elements have, and widths are spelt out.
-/
def Expr.wellCategorised : Expr → Bool
  | .flag _ => true
  | .text _ => true
  | .number _ => true
  | .label _ => true
  | .not operand => operand.wellCategorised
  | .and left right => left.wellCategorised && right.wellCategorised
  | .or left right => left.wellCategorised && right.wellCategorised
  | .compare _ left right =>
    !left.isFlag && left.wellCategorised && !right.isFlag && right.wellCategorised
  | .concat parts => Expr.operandsWellCategorised parts
  | .first collection => collection.isCollection && collection.wellCategorised
  | .rest text start =>
    !text.isFlag && text.wellCategorised && !start.isFlag && start.wellCategorised
  | .substr text start len =>
    !text.isFlag && text.wellCategorised && !start.isFlag && start.wellCategorised &&
      !len.isFlag && len.wellCategorised
  | .trunc text len => !text.isFlag && text.wellCategorised && !len.isFlag && len.wellCategorised
  | .convert _ text => !text.isFlag && text.wellCategorised
  | .pad value width => !value.isFlag && value.wellCategorised && width.isWidth
  | .episodes width => width.isWidth
  | .len operand => !operand.isFlag && operand.wellCategorised
  | .has source filters =>
    source.isCollection && source.wellCategorised &&
      Filter.allWellCategorised source.elementKind? filters

/-- Whether each of the expressions has a text and operands that suit it. -/
def Expr.operandsWellCategorised : List Expr → Bool
  | [] => true
  | part :: parts => !part.isFlag && part.wellCategorised && Expr.operandsWellCategorised parts

/-- Whether elements of the kind have what the filter looks at. -/
def Filter.wellCategorised (kind? : Option String) : Filter → Bool
  | .language _ => kind? == some "titles" || kind? == some "languages"
  | .titleKind _ => kind? == some "titles"
  | .text wanted => !wanted.isFlag && wanted.wellCategorised

def Filter.allWellCategorised (kind? : Option String) : List Filter → Bool
  | [] => true
  | filter :: filters => filter.wellCategorised kind? && Filter.allWellCategorised kind? filters

end

/-! ## Values of a category -/

/-- The value is of the category of the expression, and so are its elements if it has any. -/
structure Expr.Admits (expr : Expr) (value : Value) : Prop where
  category_eq : value.category = expr.category
  elementKind?_eq : ∀ items, value = .collection items →
    expr.elementKind? = some items.elementKind

namespace Expr.Admits

variable {expr : Expr} {value : Value}

theorem flag (h : expr.category = .flag) (b : Bool) : expr.Admits (.flag b) :=
  ⟨h.symm, nofun⟩

theorem text (h : expr.category = .text) (words : String) : expr.Admits (.text words) :=
  ⟨h.symm, nofun⟩

theorem number (h : expr.category = .number) (n : Int64) : expr.Admits (.number n) :=
  ⟨h.symm, nofun⟩

theorem label (request : Request) (l : Label) : (Expr.label l).Admits (request.value l) where
  category_eq := request.category_value l
  elementKind?_eq := by
    intro items hitems
    cases l with
    | text l => cases hitems
    | number l => cases hitems
    | flag l => cases hitems
    | collection l =>
      cases hitems
      cases l <;> rfl

theorem category_ne_flag (h : expr.Admits value) (hflag : expr.isFlag = false) :
    value.category ≠ .flag := by
  rw [h.category_eq]
  simpa [isFlag] using hflag

/-- All values but flags have a text. -/
theorem asText (h : expr.Admits value) (hflag : expr.isFlag = false) :
    Yields (value.asText expr) fun _ => True := by
  unfold Value.asText
  split
  · exact .ok trivial
  · next hnone => exact absurd (Value.toText?_eq_none_iff.mp hnone) (h.category_ne_flag hflag)

/-- All values but flags have a number. -/
theorem asNumber (h : expr.Admits value) (hflag : expr.isFlag = false) :
    Yields (value.asNumber expr) fun _ => True := by
  unfold Value.asNumber
  split
  · exact .ok trivial
  · next hnone => exact absurd (Value.toNumber?_eq_none_iff.mp hnone) (h.category_ne_flag hflag)

theorem padded (h : expr.Admits value) (hflag : expr.isFlag = false) (width : Nat) :
    Yields (value.padded expr width) fun _ => True := by
  cases value with
  | number n => exact .ok trivial
  | _ => exact (h.asText hflag).bind fun words _ => .ok trivial

theorem asCollection (h : expr.Admits value) (hcollection : expr.isCollection = true) :
    Yields (value.asCollection expr) fun items => expr.elementKind? = some items.elementKind := by
  have hcategory : value.category = .collection := by
    rw [h.category_eq]
    simpa [isCollection] using hcollection
  cases value with
  | flag b => cases hcategory
  | text words => cases hcategory
  | number n => cases hcategory
  | collection items => exact .ok (h.elementKind?_eq items rfl)

end Expr.Admits

/-! ## Comparisons -/

section Comparisons

variable {a b : Value}

/-- All values but flags have a text and a number, by which they compare. -/
theorem holds?_of_not_flag (ha : a.category ≠ .flag) (hb : b.category ≠ .flag)
    (comparison : Comparison) : ∃ holds, comparison.holds? a b = some holds := by
  obtain ⟨s, hs⟩ := Option.ne_none_iff_exists'.mp (mt Value.toText?_eq_none_iff.mp ha)
  obtain ⟨t, ht⟩ := Option.ne_none_iff_exists'.mp (mt Value.toText?_eq_none_iff.mp hb)
  obtain ⟨m, hm⟩ := Option.ne_none_iff_exists'.mp (mt Value.toNumber?_eq_none_iff.mp ha)
  obtain ⟨n, hn⟩ := Option.ne_none_iff_exists'.mp (mt Value.toNumber?_eq_none_iff.mp hb)
  have hsame : ∃ holds, a.same? b = some holds := by
    unfold Value.same?
    split
    · exact ⟨_, rfl⟩
    · simp [hs, ht]
  cases comparison with
  | equal => exact hsame
  | notEqual =>
    obtain ⟨holds, hholds⟩ := hsame
    exact ⟨!holds, by simp [Comparison.holds?, hholds]⟩
  | _ => simp [Comparison.holds?, Value.related?, hm, hn]

theorem Expr.Admits.check {left right : Expr} (ha : left.Admits a) (hb : right.Admits b)
    (hleft : left.isFlag = false) (hright : right.isFlag = false) (comparison : Comparison) :
    Yields (comparison.check left right a b) fun _ => True := by
  obtain ⟨holds, hholds⟩ :=
    holds?_of_not_flag (ha.category_ne_flag hleft) (hb.category_ne_flag hright) comparison
  unfold Comparison.check
  rw [hholds]
  exact .ok trivial

end Comparisons

/-! ## Filters -/

namespace Collection

/-- What is kept of a collection has elements of the same kind. -/
abbrev KeepsKind (items : Collection) (result : Except EvalError Collection) : Prop :=
  Yields result fun kept => kept.elementKind = items.elementKind

variable {items : Collection} {kind? : Option String}

theorem keepsKind_language (source : Expr) {l : Language}
    (hkind : kind? = some items.elementKind)
    (h : (Filter.language l).wellCategorised kind? = true) :
    items.KeepsKind (items.select source (.language l) (items.inLanguage? l)) := by
  subst hkind
  cases items with
  | titles titles => exact .ok rfl
  | languages languages => exact .ok rfl
  | folders folders => simp [Filter.wellCategorised, elementKind] at h
  | texts texts => simp [Filter.wellCategorised, elementKind] at h

theorem keepsKind_titleKind (source : Expr) {kind : TitleKind}
    (hkind : kind? = some items.elementKind)
    (h : (Filter.titleKind kind).wellCategorised kind? = true) :
    items.KeepsKind (items.select source (.titleKind kind) (items.ofTitleKind? kind)) := by
  subst hkind
  cases items with
  | titles titles => exact .ok rfl
  | languages languages => simp [Filter.wellCategorised, elementKind] at h
  | folders folders => simp [Filter.wellCategorised, elementKind] at h
  | texts texts => simp [Filter.wellCategorised, elementKind] at h

end Collection

/-! ## Values of expressions -/

section Evaluation

variable (request : Request)

section Operands

variable {expr : Expr} {β : Type} {post : β → Prop}

/-- An operand that is wanted as a text. -/
theorem yields_text (heval : Yields (expr.eval request) expr.Admits)
    (hflag : expr.isFlag = false) {f : String → Except EvalError β}
    (hf : ∀ words, Yields (f words) post) :
    Yields (do
      let words ← (← expr.eval request).asText expr
      f words) post :=
  heval.bind fun _ hvalue => (hvalue.asText hflag).bind fun words _ => hf words

/-- An operand that is wanted as a number. -/
theorem yields_number (heval : Yields (expr.eval request) expr.Admits)
    (hflag : expr.isFlag = false) {f : Int64 → Except EvalError β}
    (hf : ∀ n, Yields (f n) post) :
    Yields (do
      let n ← (← expr.eval request).asNumber expr
      f n) post :=
  heval.bind fun _ hvalue => (hvalue.asNumber hflag).bind fun n _ => hf n

/-- An operand that is wanted as a width, and spelt out. -/
theorem yields_width (h : expr.isWidth = true) {function : String}
    {f : Nat → Except EvalError β} (hf : ∀ columns, Yields (f columns) post) :
    Yields (do
      let columns ← checkWidth function (← (← expr.eval request).asNumber expr)
      f columns) post := by
  cases expr with
  | number n =>
    have hwidth : n ≤ maxWidth := by simpa [Expr.isWidth] using h
    have hcheck : checkWidth function n = .ok (Text.countOf n) :=
      if_neg (Int64.not_lt.mpr hwidth)
    simp only [Expr.eval, Value.asNumber, Value.toNumber?, ok_bind, hcheck]
    exact hf _
  | _ => cases h

end Operands

mutual

/-- An expression whose operands suit it has a value of its category, whatever is known. -/
theorem yields_eval (expr : Expr) (h : expr.wellCategorised = true) :
    Yields (expr.eval request) expr.Admits := by
  cases expr with
  | flag b => unfold Expr.eval; exact .ok (.flag rfl b)
  | text words => unfold Expr.eval; exact .ok (.text rfl words)
  | number n => unfold Expr.eval; exact .ok (.number rfl n)
  | label l => unfold Expr.eval; exact .ok (.label request l)
  | not operand =>
    unfold Expr.eval
    exact (yields_eval operand h).bind fun value _ => .ok (.flag rfl _)
  | and left right =>
    simp only [Expr.wellCategorised, Bool.and_eq_true] at h
    unfold Expr.eval
    refine (yields_eval left h.1).bind fun value _ => ?_
    split
    · exact (yields_eval right h.2).bind fun value _ => .ok (.flag rfl _)
    · exact .ok (.flag rfl _)
  | or left right =>
    simp only [Expr.wellCategorised, Bool.and_eq_true] at h
    unfold Expr.eval
    refine (yields_eval left h.1).bind fun value _ => ?_
    split
    · exact .ok (.flag rfl _)
    · exact (yields_eval right h.2).bind fun value _ => .ok (.flag rfl _)
  | compare comparison left right =>
    simp only [Expr.wellCategorised, Bool.and_eq_true, Bool.not_eq_true'] at h
    obtain ⟨⟨⟨hleft, hl⟩, hright⟩, hr⟩ := h
    unfold Expr.eval
    refine (yields_eval left hl).bind fun a ha => ?_
    refine (yields_eval right hr).bind fun b hb => ?_
    exact (ha.check hb hleft hright comparison).bind fun holds _ => .ok (.flag rfl _)
  | concat parts =>
    unfold Expr.eval
    exact (yields_joinedTexts parts h).bind fun words _ => .ok (.text rfl _)
  | first collection =>
    simp only [Expr.wellCategorised, Bool.and_eq_true] at h
    unfold Expr.eval
    refine (yields_eval collection h.2).bind fun value hvalue => ?_
    exact (hvalue.asCollection h.1).bind fun items _ => .ok (.text rfl _)
  | rest text start =>
    simp only [Expr.wellCategorised, Bool.and_eq_true, Bool.not_eq_true'] at h
    obtain ⟨⟨⟨htext, ht⟩, hstart⟩, hs⟩ := h
    unfold Expr.eval
    refine yields_text request (yields_eval text ht) htext fun words => ?_
    exact yields_number request (yields_eval start hs) hstart fun begin => .ok (.text rfl _)
  | substr text start len =>
    simp only [Expr.wellCategorised, Bool.and_eq_true, Bool.not_eq_true'] at h
    obtain ⟨⟨⟨⟨⟨htext, ht⟩, hstart⟩, hs⟩, hlen⟩, hl⟩ := h
    unfold Expr.eval
    refine yields_text request (yields_eval text ht) htext fun words => ?_
    refine yields_number request (yields_eval start hs) hstart fun begin => ?_
    exact yields_number request (yields_eval len hl) hlen fun count => .ok (.text rfl _)
  | trunc text len =>
    simp only [Expr.wellCategorised, Bool.and_eq_true, Bool.not_eq_true'] at h
    obtain ⟨⟨⟨htext, ht⟩, hlen⟩, hl⟩ := h
    unfold Expr.eval
    refine yields_text request (yields_eval text ht) htext fun words => ?_
    exact yields_number request (yields_eval len hl) hlen fun count => .ok (.text rfl _)
  | convert conversion text =>
    simp only [Expr.wellCategorised, Bool.and_eq_true, Bool.not_eq_true'] at h
    unfold Expr.eval
    exact yields_text request (yields_eval text h.2) h.1 fun words => .ok (.text rfl _)
  | pad value width =>
    simp only [Expr.wellCategorised, Bool.and_eq_true, Bool.not_eq_true'] at h
    obtain ⟨⟨hvalue, hv⟩, hwidth⟩ := h
    unfold Expr.eval
    refine yields_width request hwidth fun columns => ?_
    refine (yields_eval value hv).bind fun _ hadmits => ?_
    exact (hadmits.padded hvalue columns).bind fun words _ => .ok (.text rfl _)
  | episodes width =>
    unfold Expr.eval
    exact yields_width request h fun columns => .ok (.text rfl _)
  | len operand =>
    simp only [Expr.wellCategorised, Bool.and_eq_true, Bool.not_eq_true'] at h
    unfold Expr.eval
    exact yields_number request (yields_eval operand h.2) h.1 fun n => .ok (.number rfl _)
  | has source filters =>
    simp only [Expr.wellCategorised, Bool.and_eq_true] at h
    obtain ⟨⟨hsource, hs⟩, hfilters⟩ := h
    unfold Expr.eval
    refine (yields_eval source hs).bind fun value hvalue => ?_
    refine (hvalue.asCollection hsource).bind fun items hitems => ?_
    refine (yields_applyAll source filters hitems hfilters).bind fun kept hkept => ?_
    exact .ok ⟨rfl, fun _ heq => by cases heq; rw [hkept]; exact hitems⟩

theorem yields_joinedTexts (parts : List Expr) (h : Expr.operandsWellCategorised parts = true) :
    Yields (Expr.joinedTexts request parts) fun _ => True := by
  cases parts with
  | nil => unfold Expr.joinedTexts; exact .ok trivial
  | cons part parts =>
    simp only [Expr.operandsWellCategorised, Bool.and_eq_true, Bool.not_eq_true'] at h
    obtain ⟨⟨hflag, hpart⟩, hparts⟩ := h
    unfold Expr.joinedTexts
    refine yields_text request (yields_eval part hpart) hflag fun words => ?_
    exact (yields_joinedTexts parts hparts).bind fun words _ => .ok trivial

theorem yields_apply (source : Expr) (filter : Filter) {items : Collection}
    {kind? : Option String} (hkind : kind? = some items.elementKind)
    (h : filter.wellCategorised kind? = true) :
    items.KeepsKind (filter.apply request source items) := by
  cases filter with
  | language l => unfold Filter.apply; exact Collection.keepsKind_language source hkind h
  | titleKind kind => unfold Filter.apply; exact Collection.keepsKind_titleKind source hkind h
  | text wanted =>
    simp only [Filter.wellCategorised, Bool.and_eq_true, Bool.not_eq_true'] at h
    unfold Filter.apply
    refine yields_text request (yields_eval wanted h.2) h.1 fun words => ?_
    exact .ok (Collection.elementKind_matchingText _ _)

/-- Each filter finds the elements of the same kind as the one before it. -/
theorem yields_applyAll (source : Expr) (filters : List Filter) {items : Collection}
    {kind? : Option String} (hkind : kind? = some items.elementKind)
    (h : Filter.allWellCategorised kind? filters = true) :
    items.KeepsKind (Filter.applyAll request source items filters) := by
  cases filters with
  | nil => unfold Filter.applyAll; exact .ok rfl
  | cons filter filters =>
    simp only [Filter.allWellCategorised, Bool.and_eq_true] at h
    unfold Filter.applyAll
    split
    · exact .ok rfl
    · refine (yields_apply source filter hkind h.1).bind fun kept hkept => ?_
      refine (yields_applyAll source filters (hkept ▸ hkind) h.2).weaken ?_
      exact fun rest hrest => hrest.trans hkept

end

end Evaluation

end MediaNaming
