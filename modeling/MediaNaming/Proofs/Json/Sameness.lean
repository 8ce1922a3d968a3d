import MediaNaming.Script.TreeJson

/-!
# The same JSON value

Members of an object have no order. Two values are the same if they differ by the order of members
only, at any depth, and a decoder restores what was encoded if it reads it from all of these.
-/

namespace MediaNaming.Json

/-! ## Sameness -/

mutual

/-- The values differ at most by the order of members in objects. -/
inductive Same : Json → Json → Prop
  | refl (json : Json) : Same json json
  | array {items others : List Json} :
      SameItems items others → Same (.array items) (.array others)
  | object {members arranged others : List (String × Json)} :
      members.Perm arranged → SameMembers arranged others → Same (.object members) (.object others)

inductive SameItems : List Json → List Json → Prop
  | nil : SameItems [] []
  | cons {json other : Json} {items others : List Json} :
      Same json other → SameItems items others → SameItems (json :: items) (other :: others)

/-- The members have the same names in the same order, with the same values. -/
inductive SameMembers : List (String × Json) → List (String × Json) → Prop
  | nil : SameMembers [] []
  | cons {name : String} {json other : Json} {members others : List (String × Json)} :
      Same json other → SameMembers members others →
        SameMembers ((name, json) :: members) ((name, other) :: others)

end

theorem SameItems.refl : (items : List Json) → SameItems items items
  | [] => .nil
  | json :: items => .cons (.refl json) (.refl items)

theorem SameMembers.refl : (members : List (String × Json)) → SameMembers members members
  | [] => .nil
  | (_, json) :: members => .cons (.refl json) (.refl members)

namespace Same

variable {json other : Json}

theorem isNull_eq (h : Same json other) : json.isNull = other.isNull := by
  cases h <;> rfl

/-- What is the same as an array is an array. -/
theorem array_inv {others : List Json} (h : Same json (.array others)) :
    ∃ items, json = .array items ∧ SameItems items others := by
  cases h with
  | refl => exact ⟨others, rfl, .refl others⟩
  | array hitems => exact ⟨_, rfl, hitems⟩

theorem object_inv {others : List (String × Json)} (h : Same json (.object others)) :
    ∃ members arranged, json = .object members ∧ members.Perm arranged ∧
      SameMembers arranged others := by
  cases h with
  | refl => exact ⟨others, others, rfl, .refl others, .refl others⟩
  | object hperm hmembers => exact ⟨_, _, rfl, hperm, hmembers⟩

/-- There is no other order of a single member. -/
theorem tagged_inv {tag : Tag} {parts : Json} (h : Same json (.tagged tag parts)) :
    ∃ found, json = .tagged tag found ∧ Same found parts := by
  obtain ⟨members, arranged, rfl, hperm, hmembers⟩ := h.object_inv
  cases hmembers with
  | cons hvalue hnone =>
    cases hnone
    rw [List.perm_singleton.mp hperm]
    exact ⟨_, rfl, hvalue⟩

end Same

namespace SameMembers

variable {members others : List (String × Json)}

theorem names_eq (h : SameMembers members others) :
    members.map Prod.fst = others.map Prod.fst := by
  induction members generalizing others with
  | nil =>
    cases h
    rfl
  | cons member members ih =>
    cases h with
    | cons hvalue hmembers => rw [List.map_cons, List.map_cons, ih hmembers]

theorem exists_of_mem (h : SameMembers members others) {name : String} {value : Json}
    (hmem : (name, value) ∈ others) : ∃ found, (name, found) ∈ members ∧ Same found value := by
  induction members generalizing others with
  | nil =>
    cases h
    cases hmem
  | cons member members ih =>
    cases h with
    | cons hvalue hmembers =>
      rcases List.mem_cons.mp hmem with heq | hmem
      · cases heq
        exact ⟨_, List.mem_cons_self, hvalue⟩
      · obtain ⟨found, hfound, hsame⟩ := ih hmembers hmem
        exact ⟨found, List.mem_cons_of_mem _ hfound, hsame⟩

end SameMembers

/-! ## Restoring -/

/-- The decoder reads the value from whatever is the same as the JSON value. -/
def Restores {α : Type} (decode : Json → Option α) (json : Json) (a : α) : Prop :=
  ∀ found, Same found json → decode found = some a

section Restoring

variable {α : Type} {decode : Json → Option α} {a : α}

theorem Restores.decode_eq {json : Json} (h : Restores decode json a) : decode json = some a :=
  h json (.refl json)

/-- A decoder that restores everything tells values apart by what is encoded. -/
theorem Restores.encode_inj {encode : α → Json} (h : ∀ a, Restores decode (encode a) a)
    {a b : α} (hsame : Same (encode a) (encode b)) : a = b := by
  have hdecoded := h b _ hsame
  rw [(h a).decode_eq] at hdecoded
  exact Option.some.inj hdecoded

theorem restores_text {text : String} (h : decode (.text text) = some a) :
    Restores decode (.text text) a := by
  intro found hsame
  cases hsame
  exact h

theorem restores_integer {n : Int} (h : decode (.integer n) = some a) :
    Restores decode (.integer n) a := by
  intro found hsame
  cases hsame
  exact h

theorem restores_bool (flag : Bool) : Restores bool? (.bool flag) flag := by
  intro found hsame
  cases hsame
  rfl

/-- No value is not taken for a value, as long as none is encoded as `null`. -/
theorem restores_option {encode : α → Json} (h : ∀ a, Restores decode (encode a) a)
    (hnull : ∀ a, (encode a).isNull = false) (value : Option α) :
    Restores (option? decode) (ofOption encode value) value := by
  intro found hsame
  cases value with
  | none =>
    cases hsame
    rfl
  | some a =>
    have hfound : found.isNull = false := by rw [hsame.isNull_eq, ofOption, hnull]
    unfold option?
    split
    · cases hfound
    · rw [h a _ hsame, Option.map_some]

theorem restores_isNull (json : Json) :
    Restores (fun json => some json.isNull) json json.isNull := by
  intro found hsame
  exact congrArg some hsame.isNull_eq

/-! ### Arrays -/

theorem restores_nil (h : decode (.array []) = some a) : Restores decode (.array []) a := by
  intro found hsame
  obtain ⟨items, rfl, hitems⟩ := hsame.array_inv
  cases hitems
  exact h

/-- A decoder that goes through the items restores a list if it restores its head and its tail. -/
theorem restores_cons {decodeAll : Json → Option (List α)} {json : Json} {jsons : List Json}
    {as : List α}
    (hcons : ∀ item items, decodeAll (.array (item :: items)) = do
      let a ← decode item
      let as ← decodeAll (.array items)
      return a :: as)
    (ha : Restores decode json a) (has : Restores decodeAll (.array jsons) as) :
    Restores decodeAll (.array (json :: jsons)) (a :: as) := by
  intro found hsame
  obtain ⟨items, rfl, hitems⟩ := hsame.array_inv
  cases hitems with
  | cons hfirst hrest =>
    rw [hcons, ha _ hfirst, has _ (.array hrest)]
    rfl

theorem restores_list {encode : α → Json} (h : ∀ a, Restores decode (encode a) a) (as : List α) :
    Restores (list? decode) (ofList encode as) as := by
  induction as with
  | nil => exact restores_nil rfl
  | cons a as ih => exact restores_cons (fun _ _ => List.mapM_cons) (h a) ih

/-! ### Nodes -/

theorem restores_tagged {tag : Tag} {parts : Json}
    (h : ∀ found, Same found parts → decode (.tagged tag found) = some a) :
    Restores decode (.tagged tag parts) a := by
  intro found hsame
  obtain ⟨parts, rfl, hparts⟩ := hsame.tagged_inv
  exact h parts hparts

end Restoring

/-! ## Fields -/

theorem lookup_of_mem {members : List (String × Json)} (hnodup : (members.map Prod.fst).Nodup)
    {name : String} {value : Json} (hmem : (name, value) ∈ members) :
    members.lookup name = some value := by
  induction members with
  | nil => cases hmem
  | cons member members ih =>
    obtain ⟨other, json⟩ := member
    rw [List.map_cons, List.nodup_cons] at hnodup
    rcases List.mem_cons.mp hmem with heq | hlater
    · cases heq
      exact List.lookup_cons_self
    · have hne : (name == other) = false := by
        rw [beq_eq_false_iff_ne]
        rintro rfl
        exact hnodup.1 (List.mem_map.mpr ⟨_, hlater, rfl⟩)
      rw [List.lookup_cons, hne]
      exact ih hnodup.2 hlater

/-- A search that decodes the first member of a name decodes what is looked up. -/
theorem eq_field_of_search {α : Type} {name : String} {decode : Json → Option α}
    {search : List (String × Json) → Option α} (hnil : search [] = none)
    (hcons : ∀ other json members, search ((other, json) :: members) =
      if other = name then decode json else search members)
    (members : List (String × Json)) : search members = Record.field members name decode := by
  induction members with
  | nil => exact hnil
  | cons member members ih =>
    obtain ⟨other, json⟩ := member
    rw [hcons, ih]
    unfold Record.field
    by_cases heq : other = name
    · rw [if_pos heq, heq, List.lookup_cons_self, Option.bind_some]
    · have hne : (name == other) = false := by simpa using fun h : name = other => heq h.symm
      rw [if_neg heq, List.lookup_cons, hne]

theorem lacks_of_field {record : Record} {name : String} {lacking : Bool}
    (h : record.field name (fun json => some json.isNull) = some lacking) :
    record.lacks name = lacking := by
  obtain ⟨json, hlookup, hnull⟩ := Option.bind_eq_some_iff.mp h
  rw [Record.lacks, hlookup]
  exact Option.some.inj hnull

/-- The record has all the members, up to sameness of their values. -/
def Record.Holds (record : Record) (members : List (String × Json)) : Prop :=
  ∀ name value, (name, value) ∈ members →
    ∃ found, record.lookup name = some found ∧ Same found value

/-- What restores the value of a member reads it from the record. -/
theorem Record.Holds.field {record : Record} {members : List (String × Json)} {α : Type}
    {decode : Json → Option α} {name : String} {value : Json} {a : α} (h : record.Holds members)
    (hvalue : Restores decode value a) (hmem : (name, value) ∈ members) :
    record.field name decode = some a := by
  obtain ⟨found, hlookup, hsame⟩ := h name value hmem
  rw [Record.field, hlookup, Option.bind_some]
  exact hvalue found hsame

/-- What is the same as an object with just the fields is a record that has them. -/
theorem Same.record {json : Json} {others : List (String × Json)}
    (h : Same json (.object others)) (names : List String) (hnames : others.map Prod.fst = names)
    (hnodup : names.Nodup) :
    ∃ members, json = .object members ∧ record? names json = some members ∧
      Record.Holds members others := by
  obtain ⟨members, arranged, rfl, hperm, hmembers⟩ := h.object_inv
  have hfound : (members.map Prod.fst).Perm names := by
    rw [← hnames, ← hmembers.names_eq]
    exact hperm.map Prod.fst
  have hdistinct : (members.map Prod.fst).Nodup := hfound.nodup_iff.mpr hnodup
  refine ⟨members, rfl, ?_, ?_⟩
  · have hknown : members.filter (fun member => names.contains member.1) = members := by
      refine List.filter_eq_self.mpr fun member hmember => ?_
      exact List.contains_iff_mem.mpr (hfound.mem_iff.mp (List.mem_map_of_mem hmember))
    unfold record?
    dsimp only
    rw [hknown, if_pos hdistinct]
  · intro name value hmem
    obtain ⟨found, hin, hsame⟩ := hmembers.exists_of_mem hmem
    exact ⟨found, lookup_of_mem hdistinct (hperm.mem_iff.mpr hin), hsame⟩

/--
What is the same as an object with just the fields has these fields, and what restores the value of
one of them reads it from there.
-/
theorem Same.fields {json : Json} {others : List (String × Json)}
    (h : Same json (.object others)) (names : List String) (hnames : others.map Prod.fst = names)
    (hnodup : names.Nodup) :
    ∃ members, json = .object members ∧ fields? names (.object members) = some members ∧
      ∀ {α : Type} {decode : Json → Option α} {value : Json} {a : α} (name : String),
        Restores decode value a → (name, value) ∈ others →
          Record.field members name decode = some a := by
  obtain ⟨members, rfl, hrecord, hholds⟩ := h.record names hnames hnodup
  exact ⟨members, rfl, hrecord, fun _ hvalue hmem => hholds.field hvalue hmem⟩

end MediaNaming.Json
