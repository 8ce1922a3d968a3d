import Mathlib.Control.Monad.Basic
import MediaNaming.Proofs.Results
import MediaNaming.Script.Eval

/-!
# Chains of filters

Each filter looks at every element by itself, so a chain keeps the elements that each of its filters
keeps, in whatever order these are asked. Once nothing is left the rest of the chain is not asked,
which hides its errors: a chain fails where a filter fails that something is left for.
-/

namespace MediaNaming

/-! ## Elements -/

inductive Element where
  | title (title : Title)
  | language (language : Language)
  | folder (folder : ImportFolder)
  | text (text : String)
deriving DecidableEq

/-- The collection of the element and nothing else. -/
def Element.alone : Element → Collection
  | title item => .titles [item]
  | language item => .languages [item]
  | folder item => .folders [item]
  | text item => .texts [item]

namespace Element

/-! ### What filters look at -/

def isInLanguage (wanted : Language) : Element → Bool
  | title item => item.language == wanted
  | language item => item == wanted
  | folder _ => false
  | text _ => false

def isOfTitleKind (wanted : TitleKind) : Element → Bool
  | title item => item.kind == wanted
  | language _ => false
  | folder _ => false
  | text _ => false

def matchesText (wanted : String) : Element → Bool
  | title item => Text.contains (Text.lower item.text) (Text.lower wanted)
  | language item => some item == Language.ofNameIgnoringCase? wanted
  | folder item => Collection.folderMatches wanted item
  | text item => Text.sameIgnoringCase item wanted

end Element

namespace Collection

/-! ### Elements of collections -/

def elements : Collection → List Element
  | titles items => items.map .title
  | languages items => items.map .language
  | folders items => items.map .folder
  | texts items => items.map .text

/-- The elements of which `p` holds, in order. -/
def restrict (p : Element → Bool) : Collection → Collection
  | titles items => titles (items.filter fun item => p (.title item))
  | languages items => languages (items.filter fun item => p (.language item))
  | folders items => folders (items.filter fun item => p (.folder item))
  | texts items => texts (items.filter fun item => p (.text item))

theorem isEmpty_iff {items : Collection} : items.isEmpty = true ↔ items.elements = [] := by
  cases items <;> simp [isEmpty, elementTexts, elements]

@[simp] theorem elements_restrict (p : Element → Bool) (items : Collection) :
    (items.restrict p).elements = items.elements.filter p := by
  cases items <;> simp [restrict, elements, List.filter_map, Function.comp_def]

@[simp] theorem elementKind_restrict (p : Element → Bool) (items : Collection) :
    (items.restrict p).elementKind = items.elementKind := by
  cases items <;> rfl

@[simp] theorem elements_alone (element : Element) : element.alone.elements = [element] := by
  cases element <;> rfl

theorem elementKind_alone {items : Collection} {element : Element} (h : element ∈ items.elements) :
    element.alone.elementKind = items.elementKind := by
  cases items <;> obtain ⟨item, -, rfl⟩ := List.mem_map.mp h <;> rfl

theorem eq_titles_of_elementKind {items : Collection} (h : items.elementKind = "titles") :
    ∃ members, items = titles members := by
  cases items <;> simp_all [elementKind]

theorem eq_languages_of_elementKind {items : Collection} (h : items.elementKind = "languages") :
    ∃ members, items = languages members := by
  cases items <;> simp_all [elementKind]

/-- A collection is its elements and their kind, which an empty one has too. -/
theorem eq_of_elements_eq {items others : Collection}
    (hkind : items.elementKind = others.elementKind)
    (helements : items.elements = others.elements) : items = others := by
  cases items <;> cases others <;> simp_all [elementKind, elements, List.map_inj_right]

theorem restrict_of_isEmpty {items : Collection} (h : items.isEmpty = true) (p : Element → Bool) :
    items.restrict p = items := by
  refine eq_of_elements_eq (elementKind_restrict p items) ?_
  rw [elements_restrict, isEmpty_iff.mp h, List.filter_nil]

theorem matchingText_eq_restrict (wanted : String) (items : Collection) :
    items.matchingText wanted = items.restrict (Element.matchesText wanted) := by
  cases items <;> rfl

end Collection

/-! ## One filter -/

namespace Filter

/-- Whether the filter keeps the element when it is asked about the element alone. -/
def keeps (request : Request) (source : Expr) (element : Element) (filter : Filter) : Bool :=
  match filter.apply request source element.alone with
  | .ok kept => !kept.isEmpty
  | .error _ => false

section Application

variable {request : Request} {source : Expr} {filter : Filter} {items kept : Collection}

theorem apply_text {wanted : Expr} {words : String} (h : wanted.evalText request = .ok words) :
    (Filter.text wanted).apply request source items = .ok (items.matchingText words) := by
  obtain ⟨value, hvalue, hwords⟩ := bind_eq_ok_iff.mp h
  rw [apply, hvalue, ok_bind, hwords]
  rfl

/-- A filter that applies to a collection asks the same of every element of its kind. -/
theorem apply_eq_restrict (h : filter.apply request source items = .ok kept) :
    ∃ p : Element → Bool, ∀ others, others.elementKind = items.elementKind →
      filter.apply request source others = .ok (others.restrict p) := by
  cases filter with
  | language wanted =>
    refine ⟨Element.isInLanguage wanted, fun others hkind => ?_⟩
    unfold apply at h ⊢
    cases items with
    | titles members =>
      obtain ⟨members, rfl⟩ := Collection.eq_titles_of_elementKind hkind
      rfl
    | languages members =>
      obtain ⟨members, rfl⟩ := Collection.eq_languages_of_elementKind hkind
      rfl
    | folders members => cases h
    | texts members => cases h
  | titleKind wanted =>
    refine ⟨Element.isOfTitleKind wanted, fun others hkind => ?_⟩
    unfold apply at h ⊢
    cases items with
    | titles members =>
      obtain ⟨members, rfl⟩ := Collection.eq_titles_of_elementKind hkind
      rfl
    | languages members => cases h
    | folders members => cases h
    | texts members => cases h
  | text wanted =>
    unfold apply at h
    obtain ⟨value, hvalue, h⟩ := bind_eq_ok_iff.mp h
    obtain ⟨words, hwords, -⟩ := bind_eq_ok_iff.mp h
    refine ⟨Element.matchesText words, fun others _ => ?_⟩
    rw [apply_text (bind_eq_ok_iff.mpr ⟨value, hvalue, hwords⟩),
      Collection.matchingText_eq_restrict]

theorem keeps_eq {p : Element → Bool} {element : Element}
    (h : filter.apply request source element.alone = .ok (element.alone.restrict p)) :
    filter.keeps request source element = p element := by
  unfold keeps
  rw [h, Bool.eq_iff_iff, Bool.not_eq_true', ← Bool.not_eq_true, Collection.isEmpty_iff]
  simp

/-- What a filter keeps of a collection are the elements that it keeps alone. -/
theorem elements_apply (h : filter.apply request source items = .ok kept) :
    kept.elementKind = items.elementKind ∧
      kept.elements = items.elements.filter (filter.keeps request source ·) := by
  obtain ⟨p, hp⟩ := apply_eq_restrict h
  obtain rfl : kept = items.restrict p := Except.ok.inj (h.symm.trans (hp items rfl))
  refine ⟨Collection.elementKind_restrict p items, ?_⟩
  rw [Collection.elements_restrict]
  refine List.filter_congr fun element helement => ?_
  exact (keeps_eq (hp _ (Collection.elementKind_alone helement))).symm

end Application

/-! ## Chains -/

section Chains

variable {request : Request} {source : Expr} {items kept : Collection}

theorem applyAll_of_isEmpty (h : items.isEmpty = true) (filters : List Filter) :
    applyAll request source items filters = .ok items := by
  cases filters with
  | nil => rfl
  | cons filter filters =>
    unfold applyAll
    exact if_pos h

theorem applyAll_cons (h : items.isEmpty = false) (filter : Filter) (filters : List Filter) :
    applyAll request source items (filter :: filters) =
      filter.apply request source items >>= fun kept => applyAll request source kept filters := by
  rw [applyAll]
  exact if_neg (by simp [h])

theorem applyAll_append (request : Request) (source : Expr) (items : Collection)
    (filters more : List Filter) :
    applyAll request source items (filters ++ more) =
      applyAll request source items filters >>= fun kept =>
        applyAll request source kept more := by
  induction filters generalizing items with
  | nil => rfl
  | cons filter filters ih =>
    cases hempty : items.isEmpty with
    | true =>
      rw [applyAll_of_isEmpty hempty, applyAll_of_isEmpty hempty, ok_bind,
        applyAll_of_isEmpty hempty]
    | false =>
      rw [List.cons_append, applyAll_cons hempty, applyAll_cons hempty, bind_assoc]
      simp only [ih]

/-- A chain keeps the elements that each of its filters keeps. -/
theorem elements_applyAll {filters : List Filter}
    (h : applyAll request source items filters = .ok kept) :
    kept.elementKind = items.elementKind ∧
      kept.elements =
        items.elements.filter fun element => filters.all (keeps request source element) := by
  induction filters generalizing items with
  | nil =>
    cases h
    exact ⟨rfl, (List.filter_eq_self.mpr fun _ _ => rfl).symm⟩
  | cons filter filters ih =>
    cases hempty : items.isEmpty with
    | true =>
      rw [applyAll_of_isEmpty hempty] at h
      cases h
      simp [Collection.isEmpty_iff.mp hempty]
    | false =>
      rw [applyAll_cons hempty] at h
      obtain ⟨between, hfilter, hrest⟩ := bind_eq_ok_iff.mp h
      obtain ⟨hkind, helements⟩ := elements_apply hfilter
      obtain ⟨hkinds, hall⟩ := ih hrest
      refine ⟨hkinds.trans hkind, ?_⟩
      rw [hall, helements, List.filter_filter]
      simp only [List.all_cons, Bool.and_comm]

/-- A chain fails where a filter fails, if something is left for it. -/
theorem applyAll_eq_error_iff {filters : List Filter} {error : EvalError} :
    applyAll request source items filters = .error error ↔
      ∃ before filter after reached, filters = before ++ filter :: after ∧
        applyAll request source items before = .ok reached ∧ reached.isEmpty = false ∧
        filter.apply request source reached = .error error := by
  constructor
  · intro h
    induction filters generalizing items with
    | nil => cases h
    | cons filter filters ih =>
      cases hempty : items.isEmpty with
      | true =>
        rw [applyAll_of_isEmpty hempty] at h
        cases h
      | false =>
        rw [applyAll_cons hempty] at h
        rcases bind_eq_error_iff.mp h with h | ⟨between, hfilter, hrest⟩
        · exact ⟨[], filter, filters, items, rfl, rfl, hempty, h⟩
        · obtain ⟨before, later, after, reached, rfl, hbefore, hreached⟩ := ih hrest
          refine ⟨filter :: before, later, after, reached, rfl, ?_, hreached⟩
          rw [applyAll_cons hempty, hfilter, ok_bind, hbefore]
  · rintro ⟨before, filter, after, reached, rfl, hbefore, hreached, hfilter⟩
    rw [applyAll_append, hbefore, ok_bind, applyAll_cons hreached, hfilter, error_bind]

end Chains

end Filter

/-! ## The source of a chain -/

/-- The error without the name of the collection that a filter does not apply to. -/
def EvalError.withoutSource : EvalError → EvalError
  | invalidFilter _ filter elementKind => invalidFilter "" filter elementKind
  | error => error

namespace Filter

theorem apply_congr_source (request : Request) (source other : Expr) (items : Collection)
    (filter : Filter) :
    (filter.apply request source items).mapError EvalError.withoutSource =
      (filter.apply request other items).mapError EvalError.withoutSource := by
  cases filter with
  | language wanted =>
    unfold apply Collection.select
    cases items.inLanguage? wanted <;> rfl
  | titleKind wanted =>
    unfold apply Collection.select
    cases items.ofTitleKind? wanted <;> rfl
  | text wanted =>
    unfold apply
    rfl

/-- The source of a chain makes no difference but that errors name it. -/
theorem applyAll_congr_source (request : Request) (source other : Expr) (items : Collection)
    (filters : List Filter) :
    (applyAll request source items filters).mapError EvalError.withoutSource =
      (applyAll request other items filters).mapError EvalError.withoutSource := by
  induction filters generalizing items with
  | nil => rfl
  | cons filter filters ih =>
    cases hempty : items.isEmpty with
    | true => rw [applyAll_of_isEmpty hempty, applyAll_of_isEmpty hempty]
    | false =>
      rw [applyAll_cons hempty, applyAll_cons hempty, mapError_bind, mapError_bind,
        apply_congr_source request source other]
      simp only [ih]

end Filter

/-! ## Expressions -/

section Expressions

variable {request : Request} {source : Expr} {items : Collection}

theorem eval_has (hsource : source.eval request = .ok (.collection items))
    (filters : List Filter) :
    (Expr.has source filters).eval request =
      Filter.applyAll request source items filters >>= fun kept => .ok (.collection kept) := by
  rw [Expr.eval, hsource]
  rfl

theorem eval_has_eq_ok_iff (hsource : source.eval request = .ok (.collection items))
    {filters : List Filter} {value : Value} :
    (Expr.has source filters).eval request = .ok value ↔
      ∃ kept, Filter.applyAll request source items filters = .ok kept ∧
        .collection kept = value := by
  rw [eval_has hsource, bind_eq_ok_iff]
  simp only [Except.ok.injEq]

theorem eval_has_eq_error_iff (hsource : source.eval request = .ok (.collection items))
    {filters : List Filter} {error : EvalError} :
    (Expr.has source filters).eval request = .error error ↔
      Filter.applyAll request source items filters = .error error := by
  rw [eval_has hsource, bind_eq_error_iff]
  simp

/-- A collection that is searched for a text; nothing is found in an empty one. -/
theorem eval_has_text (hsource : source.eval request = .ok (.collection items)) {wanted : Expr}
    {words : String} (hwanted : wanted.evalText request = .ok words) :
    (Expr.has source [.text wanted]).eval request =
      .ok (.collection (items.matchingText words)) := by
  refine (eval_has_eq_ok_iff hsource).mpr ⟨_, ?_, rfl⟩
  cases hempty : items.isEmpty with
  | true =>
    rw [Filter.applyAll_of_isEmpty hempty, Collection.matchingText_eq_restrict,
      Collection.restrict_of_isEmpty hempty]
  | false =>
    rw [Filter.applyAll_cons hempty, Filter.apply_text hwanted]
    rfl

/-- A chain that is split filters what is left of its first part. -/
theorem eval_has_has (hsource : source.eval request = .ok (.collection items))
    (filters more : List Filter) :
    ((Expr.has (.has source filters) more).eval request).mapError EvalError.withoutSource =
      ((Expr.has source (filters ++ more)).eval request).mapError EvalError.withoutSource := by
  rw [eval_has hsource, Filter.applyAll_append]
  cases hchain : Filter.applyAll request source items filters with
  | error error =>
    rw [Expr.eval, (eval_has_eq_error_iff hsource).mpr hchain]
    rfl
  | ok kept =>
    have hkept := (eval_has_eq_ok_iff hsource).mpr ⟨kept, hchain, rfl⟩
    rw [eval_has hkept, ok_bind, mapError_bind, mapError_bind,
      Filter.applyAll_congr_source request (.has source filters) source]

end Expressions

/--
A chain of filters keeps, in order, the elements that each filter keeps alone, so the order of the
filters matters only for whether it fails. It may be split into two, up to the source that errors
name. An empty collection stays as it is, and a chain fails just where a filter fails that something
is left for.
-/
theorem has_intersects_filters (request : Request) (source : Expr) (items : Collection)
    (hsource : source.eval request = .ok (.collection items)) (filters : List Filter) :
    (∀ value, (Expr.has source filters).eval request = .ok value →
      (∃ kept, value = .collection kept ∧ kept.elementKind = items.elementKind ∧
        kept.elements = items.elements.filter fun element =>
          filters.all (Filter.keeps request source element)) ∧
      ∀ others other, filters.Perm others →
        (Expr.has source others).eval request = .ok other → other = value) ∧
    (∀ more,
      ((Expr.has (.has source filters) more).eval request).mapError EvalError.withoutSource =
        ((Expr.has source (filters ++ more)).eval request).mapError EvalError.withoutSource) ∧
    (items.isEmpty = true →
      (Expr.has source filters).eval request = .ok (.collection items)) ∧
    ∀ error, (Expr.has source filters).eval request = .error error ↔
      ∃ before filter after reached, filters = before ++ filter :: after ∧
        (Expr.has source before).eval request = .ok (.collection reached) ∧
        reached.isEmpty = false ∧ filter.apply request source reached = .error error := by
  refine ⟨fun value hvalue => ?_, eval_has_has hsource filters, fun hempty => ?_, fun error => ?_⟩
  · obtain ⟨kept, hkept, rfl⟩ := (eval_has_eq_ok_iff hsource).mp hvalue
    obtain ⟨hkind, helements⟩ := Filter.elements_applyAll hkept
    refine ⟨⟨kept, rfl, hkind, helements⟩, fun others other hperm hother => ?_⟩
    obtain ⟨left, hleft, rfl⟩ := (eval_has_eq_ok_iff hsource).mp hother
    obtain ⟨hleftKind, hleftElements⟩ := Filter.elements_applyAll hleft
    refine congrArg Value.collection ?_
    refine Collection.eq_of_elements_eq (hleftKind.trans hkind.symm) ?_
    rw [hleftElements, helements]
    simp only [hperm.all_eq]
  · exact (eval_has_eq_ok_iff hsource).mpr ⟨items, Filter.applyAll_of_isEmpty hempty filters, rfl⟩
  · rw [eval_has_eq_error_iff hsource, Filter.applyAll_eq_error_iff]
    simp only [eval_has_eq_ok_iff hsource, Value.collection.injEq, exists_eq_right]

/--
Languages are of no kind of titles, which is an error, unless nothing is left when the kind is asked
for.
-/
theorem has_intersects_filters_of_languages :
    let release : Release := { audioLanguages := [.japanese, .english, .japanese] }
    let request : Request := {
      file := { id := 1, path := "a.mkv", release := some release }, anime := [], episodes := [] }
    let dubs : Expr := .label (.collection .dubLanguages)
    let japanese : Filter := .language .japanese
    let english : Filter := .text (.text " ENGLISH")
    let main : Filter := .titleKind .main
    let nothing : Value := .collection (.languages [])
    dubs.eval request = .ok (.collection (.languages [.japanese, .english, .japanese])) ∧
      (Expr.has dubs [japanese, english, main]).eval request = .ok nothing ∧
      (∀ other, (Expr.has dubs [english, japanese, main]).eval request = .ok other →
        other = nothing) ∧
      (Expr.has (.has dubs [japanese, english]) [main]).eval request = .ok nothing ∧
      (Expr.has dubs [japanese, main]).eval request =
        .error (.invalidFilter "DubLanguages" "Main" "languages") := by
  intro release request dubs japanese english main nothing
  have hdubs : dubs.eval request =
      .ok (.collection (.languages [.japanese, .english, .japanese])) := rfl
  have hchain : (Expr.has dubs [japanese, english, main]).eval request = .ok nothing := by
    decide +kernel
  have hsplit : (Expr.has dubs [japanese, english]).eval request = .ok nothing := by
    decide +kernel
  refine ⟨hdubs, hchain, fun other hother => ?_, ?_, ?_⟩
  · exact ((has_intersects_filters request dubs _ hdubs _).1 _ hchain).2 _ other
      (.swap english japanese [main]) hother
  · exact (has_intersects_filters request _ _ hsplit [main]).2.2.1 rfl
  · refine ((has_intersects_filters request dubs _ hdubs _).2.2.2 _).mpr ?_
    exact ⟨[japanese], main, [], .languages [.japanese, .japanese], rfl, by decide +kernel, rfl,
      by decide +kernel⟩

end MediaNaming
