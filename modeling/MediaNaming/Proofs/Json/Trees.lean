import MediaNaming.Proofs.Json.Sameness

/-!
# Programs survive JSON

Whatever a program is encoded as, its decoder gives the program back, in whatever order the members
of objects come. So no two programs are encoded as the same JSON value.
-/

namespace MediaNaming

open Json

/-! ## Fields that are expressions, filters and statements -/

theorem Expr.fieldOfJson?_object (name : String) (members : List (String × Json)) :
    Expr.fieldOfJson? name (.object members) = Record.field members name Expr.ofJson? := by
  rw [Expr.fieldOfJson?]
  exact eq_field_of_search rfl (fun _ _ _ => rfl) members

theorem Filter.fieldOfJson?_object (name : String) (members : List (String × Json)) :
    Filter.fieldOfJson? name (.object members) = Record.field members name Filter.arrayOfJson? := by
  rw [Filter.fieldOfJson?]
  exact eq_field_of_search rfl (fun _ _ _ => rfl) members

theorem Statement.fieldOfJson?_object (name : String) (members : List (String × Json)) :
    Statement.fieldOfJson? name (.object members) =
      Record.field members name Statement.arrayOfJson? := by
  rw [Statement.fieldOfJson?]
  exact eq_field_of_search rfl (fun _ _ _ => rfl) members

theorem Branches.fieldOfJson?_object (last : Branches) (name : String)
    (members : List (String × Json)) :
    Branches.fieldOfJson? last name (.object members) =
      Record.field members name (Branches.arrayOfJson? last) := by
  rw [Branches.fieldOfJson?]
  exact eq_field_of_search rfl (fun _ _ _ => rfl) members

/-! ## Words -/

theorem Comparison.restores (comparison : Comparison) :
    Restores Comparison.ofJson? (.text comparison.tag) comparison :=
  restores_text (by simp [Comparison.ofJson?, name?])

theorem Target.restores (target : Target) :
    Restores Target.ofJson? (.text target.tag) target :=
  restores_text (by simp [Target.ofJson?, name?])

theorem Expr.labelOfName?_name (l : Label) :
    Expr.labelOfName? l.category.tag l.name = some (.label l) := by
  simp [Expr.labelOfName?]

/-! ## Expressions -/

/-- An expression is restored if its node is, under the two tags that are around its parts. -/
theorem Expr.restores_node {expr : Expr} {form : Tag} {parts : Json}
    (hnode : expr.nodeJson = .tagged form parts)
    (h : ∀ found, Same found parts →
      Expr.ofJson? (.tagged expr.category.tag (.tagged form found)) = some expr) :
    Restores Expr.ofJson? expr.toJson expr := by
  rw [Expr.toJson, Expr.inCategory, hnode]
  refine restores_tagged fun node hsame => ?_
  obtain ⟨found, rfl, hfound⟩ := hsame.tagged_inv
  exact h found hfound

/-- Parts that are one expression are restored with it. -/
theorem Expr.restores_operand {expr a : Expr} {form : Tag}
    (hnode : expr.nodeJson = .tagged form a.toJson) (ha : Restores Expr.ofJson? a.toJson a)
    (h : ∀ found, Expr.ofJson? found = some a →
      Expr.ofJson? (.tagged expr.category.tag (.tagged form found)) = some expr) :
    Restores Expr.ofJson? expr.toJson expr :=
  Expr.restores_node hnode fun found hfound => h found (ha found hfound)

/-- Parts that are two expressions are restored with them. -/
theorem Expr.restores_pair {expr a b : Expr} {form : Tag}
    (hnode : expr.nodeJson = .tagged form (.array [a.toJson, b.toJson]))
    (ha : Restores Expr.ofJson? a.toJson a) (hb : Restores Expr.ofJson? b.toJson b)
    (h : ∀ found, Expr.pairOfJson? found = some (a, b) →
      Expr.ofJson? (.tagged expr.category.tag (.tagged form found)) = some expr) :
    Restores Expr.ofJson? expr.toJson expr := by
  refine Expr.restores_node hnode fun found hfound => h found ?_
  obtain ⟨items, rfl, hitems⟩ := hfound.array_inv
  cases hitems with
  | cons hfirst hrest =>
    cases hrest with
    | cons hsecond hnone =>
      cases hnone
      rw [Expr.pairOfJson?, ha _ hfirst, hb _ hsecond]
      rfl

-- The induction is on the tree. The decoder is unfolded below the two tags, where it reads the
-- parts, and the hypotheses for these say what it finds there.
mutual

theorem Expr.restores : (expr : Expr) → Restores Expr.ofJson? expr.toJson expr
  | .flag value => by
    refine Expr.restores_node rfl fun found hfound => ?_
    cases hfound
    simp [Json.tagged, Expr.ofJson?, Expr.category, Category.tag, bool?]
  | .text value => by
    refine Expr.restores_node rfl fun found hfound => ?_
    cases hfound
    simp [Json.tagged, Expr.ofJson?, Expr.category, Category.tag, text?]
  | .number value => by
    refine Expr.restores_node rfl fun found hfound => ?_
    cases hfound
    simp [Json.tagged, Expr.ofJson?, Expr.category, Category.tag, ofInt64, int64?,
      Text.toInt64?_toInt]
  | .label l => by
    refine Expr.restores_node rfl fun found hfound => ?_
    cases hfound
    simp [Json.tagged, Expr.ofJson?, Expr.category, name?, Expr.labelOfName?_name]
  | .not a => Expr.restores_operand rfl a.restores fun found ha => by
    simp [Json.tagged, Expr.ofJson?, Expr.category, Category.tag, ha]
  | .and a b => Expr.restores_pair rfl a.restores b.restores fun found hpair => by
    simp [Json.tagged, Expr.ofJson?, Expr.category, Category.tag, hpair]
  | .or a b => Expr.restores_pair rfl a.restores b.restores fun found hpair => by
    simp [Json.tagged, Expr.ofJson?, Expr.category, Category.tag, hpair]
  | .compare comparison a b => by
    refine Expr.restores_node rfl fun found hfound => ?_
    obtain ⟨members, rfl, hfields, hfield⟩ := hfound.fields ["op", "lhs", "rhs"] rfl (by simp)
    have hop := hfield "op" comparison.restores (by simp)
    have ha := hfield "lhs" a.restores (by simp [Expr.toJson])
    have hb := hfield "rhs" b.restores (by simp [Expr.toJson])
    simp [Json.tagged, Expr.ofJson?, Expr.category, Category.tag, Expr.fieldOfJson?_object, hfields,
      hop, ha, hb]
  | .concat parts => by
    refine Expr.restores_node rfl fun found hfound => ?_
    have hparts := Expr.restores_list parts found hfound
    simp [Json.tagged, Expr.ofJson?, Expr.category, Category.tag, hparts]
  | .first a => Expr.restores_operand rfl a.restores fun found ha => by
    simp [Json.tagged, Expr.ofJson?, Expr.category, Category.tag, ha]
  | .rest a b => by
    refine Expr.restores_node rfl fun found hfound => ?_
    obtain ⟨members, rfl, hfields, hfield⟩ := hfound.fields ["text", "start", "len"] rfl (by simp)
    have ha := hfield "text" a.restores (by simp [Expr.toJson])
    have hb := hfield "start" b.restores (by simp [Expr.toJson])
    -- The length is written as `null`, which is what tells this form from the next one.
    have hlen : Record.lacks members "len" = true :=
      lacks_of_field (hfield "len" (restores_isNull .null) (by simp))
    simp [Json.tagged, Expr.ofJson?, Expr.category, Category.tag, Expr.fieldOfJson?_object, hfields,
      hlen, ha, hb]
  | .substr a b c => by
    refine Expr.restores_node rfl fun found hfound => ?_
    obtain ⟨members, rfl, hfields, hfield⟩ := hfound.fields ["text", "start", "len"] rfl (by simp)
    have ha := hfield "text" a.restores (by simp [Expr.toJson])
    have hb := hfield "start" b.restores (by simp [Expr.toJson])
    have hc := hfield "len" c.restores (by simp [Expr.toJson])
    have hlen : Record.lacks members "len" = false :=
      lacks_of_field (hfield "len" (restores_isNull c.toJson) (by simp [Expr.toJson]))
    simp [Json.tagged, Expr.ofJson?, Expr.category, Category.tag, Expr.fieldOfJson?_object, hfields,
      hlen, ha, hb, hc]
  | .trunc a b => by
    refine Expr.restores_node rfl fun found hfound => ?_
    obtain ⟨members, rfl, hfields, hfield⟩ := hfound.fields ["text", "len"] rfl (by simp)
    have ha := hfield "text" a.restores (by simp [Expr.toJson])
    have hb := hfield "len" b.restores (by simp [Expr.toJson])
    simp [Json.tagged, Expr.ofJson?, Expr.category, Category.tag, Expr.fieldOfJson?_object, hfields,
      ha, hb]
  | .convert conversion a => Expr.restores_operand rfl a.restores fun found ha => by
    cases conversion <;>
      simp [Json.tagged, Expr.ofJson?, Expr.category, Category.tag, Conversion.tag, ha]
  | .pad a b => by
    refine Expr.restores_node rfl fun found hfound => ?_
    obtain ⟨members, rfl, hfields, hfield⟩ := hfound.fields ["value", "width"] rfl (by simp)
    have ha := hfield "value" a.restores (by simp [Expr.toJson])
    have hb := hfield "width" b.restores (by simp [Expr.toJson])
    simp [Json.tagged, Expr.ofJson?, Expr.category, Category.tag, Expr.fieldOfJson?_object, hfields,
      ha, hb]
  | .episodes a => by
    refine Expr.restores_node rfl fun found hfound => ?_
    obtain ⟨members, rfl, hfields, hfield⟩ := hfound.fields ["width"] rfl (by simp)
    have ha := hfield "width" a.restores (by simp [Expr.toJson])
    simp [Json.tagged, Expr.ofJson?, Expr.category, Category.tag, Expr.fieldOfJson?_object, hfields,
      ha]
  | .len a => Expr.restores_operand rfl a.restores fun found ha => by
    simp [Json.tagged, Expr.ofJson?, Expr.category, Category.tag, ha]
  | .has a filters => by
    refine Expr.restores_node rfl fun found hfound => ?_
    obtain ⟨members, rfl, hfields, hfield⟩ := hfound.fields ["source", "filters"] rfl (by simp)
    have ha := hfield "source" a.restores (by simp [Expr.toJson])
    have hfilters := hfield "filters" (Filter.restores_list filters) (by simp)
    simp [Json.tagged, Expr.ofJson?, Expr.category, Category.tag, Expr.fieldOfJson?_object,
      Filter.fieldOfJson?_object, hfields, ha, hfilters]

theorem Expr.restores_list : (exprs : List Expr) →
    Restores Expr.arrayOfJson? (.array (Expr.listJson exprs)) exprs
  | [] => restores_nil rfl
  | expr :: exprs => restores_cons (fun _ _ => rfl) expr.restores (Expr.restores_list exprs)

theorem Filter.restores : (filter : Filter) → Restores Filter.ofJson? filter.toJson filter
  | .language language => restores_tagged fun found hfound => by
    cases hfound
    simp [Json.tagged, Filter.ofJson?, Language.ofJson?, Language.toJson, name?]
  | .titleKind kind => restores_tagged fun found hfound => by
    cases hfound
    simp [Json.tagged, Filter.ofJson?, TitleKind.ofJson?, TitleKind.toJson, name?]
  | .text a => restores_tagged fun found hfound => by
    have ha := a.restores found hfound
    simp [Json.tagged, Filter.ofJson?, ha]

theorem Filter.restores_list : (filters : List Filter) →
    Restores Filter.arrayOfJson? (.array (Filter.listJson filters)) filters
  | [] => restores_nil rfl
  | filter :: filters =>
    restores_cons (fun _ _ => rfl) filter.restores (Filter.restores_list filters)

end

/-! ## Statements -/

/-- What stands behind the branches that have a condition. -/
def Branches.last : Branches → Branches
  | .done => .done
  | .otherwise body => .otherwise body
  | .branch _ _ rest => rest.last

mutual

theorem Statement.restores :
    (statement : Statement) → Restores Statement.ofJson? statement.toJson statement
  | .choose branches => restores_tagged fun found hfound => by
    obtain ⟨members, rfl, hfields, hfield⟩ := hfound.fields ["arms", "otherwise"] rfl (by simp)
    have harms := hfield "arms" branches.restores_arms (by simp)
    have hlacks : Record.lacks members "otherwise" = branches.otherwiseJson.isNull :=
      lacks_of_field (hfield "otherwise" (restores_isNull _) (by simp))
    -- What stands last decides what the others are put in front of.
    rcases branches.restores_last with ⟨hlast, hnull⟩ | ⟨body, hlast, hnull, hbody⟩
    · rw [hlast] at harms
      simp [Json.tagged, Statement.ofJson?, Branches.fieldOfJson?_object, hfields, hlacks, hnull,
        harms]
    · have hotherwise := hfield "otherwise" hbody (by simp)
      rw [hlast] at harms
      simp [Json.tagged, Statement.ofJson?, Statement.fieldOfJson?_object,
        Branches.fieldOfJson?_object, hfields, hlacks, hnull, hotherwise, harms]
  | .set target parts => restores_tagged fun found hfound => by
    obtain ⟨members, rfl, hfields, hfield⟩ := hfound.fields ["target", "parts"] rfl (by simp)
    have htarget := hfield "target" target.restores (by simp)
    have hparts := hfield "parts" (Expr.restores_list parts) (by simp)
    simp [Json.tagged, Statement.ofJson?, hfields, htarget, hparts]
  | .add target parts => restores_tagged fun found hfound => by
    obtain ⟨members, rfl, hfields, hfield⟩ := hfound.fields ["target", "parts"] rfl (by simp)
    have htarget := hfield "target" target.restores (by simp)
    have hparts := hfield "parts" (Expr.restores_list parts) (by simp)
    simp [Json.tagged, Statement.ofJson?, hfields, htarget, hparts]
  | .replace target pattern image => restores_tagged fun found hfound => by
    obtain ⟨members, rfl, hfields, hfield⟩ :=
      hfound.fields ["target", "from", "to"] rfl (by simp)
    have htarget := hfield "target" target.restores (by simp)
    have hpattern := hfield "from" pattern.restores (by simp)
    have himage := hfield "to" image.restores (by simp)
    simp [Json.tagged, Statement.ofJson?, hfields, htarget, hpattern, himage]
  | .skip => restores_text (by simp [Statement.ofJson?])
  | .cancel parts => restores_tagged fun found hfound => by
    have hparts := Expr.restores_list parts found hfound
    simp [Json.tagged, Statement.ofJson?, hparts]

/-- The branches that have a condition are read in front of the last ones. -/
theorem Branches.restores_arms : (branches : Branches) →
    Restores (Branches.arrayOfJson? branches.last) (.array branches.armsJson) branches
  | .done => restores_nil rfl
  | .otherwise body => restores_nil rfl
  | .branch condition body rest => fun found h => by
    obtain ⟨items, rfl, hitems⟩ := h.array_inv
    cases hitems with
    | cons hfirst hrest =>
      obtain ⟨members, rfl, hfields, hfield⟩ := hfirst.fields ["condition", "body"] rfl (by simp)
      have hcondition := hfield "condition" condition.restores (by simp)
      have hbody := hfield "body" (Statement.restores_list body) (by simp)
      have hbranches := rest.restores_arms _ (.array hrest)
      rw [Branches.arrayOfJson?] at hbranches ⊢
      simp [Branches.last, Branches.listOfJson?, Statement.fieldOfJson?_object, hfields,
        hcondition, hbody, hbranches]

/-- There is `null` for no last branch, and else the statements of it. -/
theorem Branches.restores_last : (branches : Branches) →
    (branches.last = .done ∧ branches.otherwiseJson.isNull = true) ∨
    ∃ body, branches.last = .otherwise body ∧ branches.otherwiseJson.isNull = false ∧
      Restores Statement.arrayOfJson? branches.otherwiseJson body
  | .done => .inl ⟨rfl, rfl⟩
  | .otherwise body => .inr ⟨body, rfl, rfl, Statement.restores_list body⟩
  | .branch _ _ rest => rest.restores_last

theorem Statement.restores_list : (statements : List Statement) →
    Restores Statement.arrayOfJson? (.array (Statement.listJson statements)) statements
  | [] => restores_nil rfl
  | statement :: statements =>
    restores_cons (fun _ _ => rfl) statement.restores (Statement.restores_list statements)

end

/-! ## Programs -/

theorem Program.restores (program : Program) :
    Restores Program.ofJson? program.toJson program := by
  intro found hfound
  obtain ⟨members, rfl, hfields, hfield⟩ := hfound.fields ["statements"] rfl (by simp)
  have hstatements := hfield "statements" (Statement.restores_list program.statements) (by simp)
  simp [Program.ofJson?, hfields, hstatements]

/--
A program is read back from what it is encoded as, in whatever order the members of objects come,
and two programs are not encoded as the same JSON value.
-/
theorem Program.survives_json :
    (∀ program : Program, Program.ofJson? program.toJson = some program) ∧
    (∀ (program : Program) (json : Json), Same json program.toJson →
      Program.ofJson? json = some program) ∧
    ∀ left right : Program, Same left.toJson right.toJson → left = right := by
  refine ⟨?_, Program.restores, ?_⟩
  · intro program
    exact program.restores.decode_eq
  · intro left right hsame
    exact Restores.encode_inj Program.restores hsame

/-- An empty last branch that is written before the other ones is not taken for none. -/
theorem Program.survives_json_of_reordered :
    let json : Json := .object [("statements", .array [
      .tagged .conditional (.object [("otherwise", .array []), ("arms", .array [])])])]
    Same json (Program.toJson ⟨[.choose (.otherwise [])]⟩) ∧
      Program.ofJson? json = some ⟨[.choose (.otherwise [])]⟩ ∧
      ¬ Same json (Program.toJson ⟨[.choose .done]⟩) := by
  intro json
  have hsame : Same json (Program.toJson ⟨[.choose (.otherwise [])]⟩) := by
    have hchoice : Same
        (.tagged .conditional (.object [("otherwise", .array []), ("arms", .array [])]))
        (Statement.toJson (.choose (.otherwise []))) :=
      .object (.refl _) (.cons (.object (.swap _ _ _) (.refl _)) .nil)
    exact .object (.refl _) (.cons (.array (.cons hchoice .nil)) .nil)
  have hread := Program.survives_json.2.1 _ json hsame
  refine ⟨hsame, hread, fun hother => ?_⟩
  rw [Program.survives_json.2.1 _ json hother] at hread
  cases hread

end MediaNaming
