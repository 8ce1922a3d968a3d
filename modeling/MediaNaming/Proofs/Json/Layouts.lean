import MediaNaming.Proofs.Json.Scalars
import MediaNaming.Text.Blank

/-!
# Printed values are read back

A value may be laid out with blanks between its parts. However it is laid out, it is read back, and
both layouts in which values are printed are such.
-/

namespace MediaNaming.Json

/-! ## Layouts -/

def Blank (cs : List Char) : Prop :=
  ∀ c ∈ cs, isJsonBlank c = true

theorem blank_nil : Blank [] := fun _ hc => absurd hc List.not_mem_nil

mutual

/-- The characters spell the value, with any blanks behind brackets, commas and colons and before
what closes. -/
inductive Spells : Json → List Char → Prop
  | null : Spells .null ['n', 'u', 'l', 'l']
  | true : Spells (.bool true) ['t', 'r', 'u', 'e']
  | false : Spells (.bool false) ['f', 'a', 'l', 's', 'e']
  | integer {n : Int} (hn : Fits n) : Spells (.integer n) (Text.intChars n)
  | text (value : String) : Spells (.text value) (printText value)
  | noItems : Spells (.array []) ['[', ']']
  | array {items : List Json} {blanks cs : List Char} (hblanks : Blank blanks) :
      SpellsItems items cs → Spells (.array items) ('[' :: (blanks ++ cs))
  | noMembers : Spells (.object []) ['\x7b', '\x7d']
  | object {members : List (String × Json)} {blanks cs : List Char} (hblanks : Blank blanks) :
      SpellsMembers members cs → Spells (.object members) ('\x7b' :: (blanks ++ cs))

/-- Items from the first one to the closing bracket. -/
inductive SpellsItems : List Json → List Char → Prop
  | last {item : Json} {cs blanks : List Char} (hblanks : Blank blanks) :
      Spells item cs → SpellsItems [item] (cs ++ (blanks ++ [']']))
  | next {item : Json} {items : List Json} {cs blanks ds : List Char} (hblanks : Blank blanks) :
      Spells item cs → SpellsItems items ds →
        SpellsItems (item :: items) (cs ++ ',' :: (blanks ++ ds))

/-- Members from the first one to the closing brace. -/
inductive SpellsMembers : List (String × Json) → List Char → Prop
  | last {name : String} {value : Json} {blanks cs more : List Char} (hblanks : Blank blanks)
      (hmore : Blank more) :
      Spells value cs →
        SpellsMembers [(name, value)]
          (printText name ++ ':' :: (blanks ++ (cs ++ (more ++ ['\x7d']))))
  | next {name : String} {value : Json} {members : List (String × Json)}
      {blanks cs more ds : List Char} (hblanks : Blank blanks) (hmore : Blank more) :
      Spells value cs → SpellsMembers members ds →
        SpellsMembers ((name, value) :: members)
          (printText name ++ ':' :: (blanks ++ (cs ++ ',' :: (more ++ ds))))

end

/-! ### First characters -/

/-- The characters start with one that is no blank and closes nothing. -/
def StartsValue (cs : List Char) : Prop :=
  ∃ c ds, cs = c :: ds ∧ isJsonBlank c = false ∧ c ≠ ']' ∧ c ≠ '\x7d'

theorem StartsValue.append {cs : List Char} (h : StartsValue cs) (ds : List Char) :
    StartsValue (cs ++ ds) := by
  obtain ⟨c, es, rfl, hc⟩ := h
  exact ⟨c, es ++ ds, rfl, hc⟩

theorem startsValue_printText (text : String) : StartsValue (printText text) :=
  ⟨'"', _, rfl, by decide, by decide, by decide⟩

/-- No blank, and starts no value but a number. -/
structure StartsNumber (c : Char) : Prop where
  not_blank : isJsonBlank c = false
  not_letter : c ≠ 'n' ∧ c ≠ 't' ∧ c ≠ 'f'
  not_quote : c ≠ '"'
  not_bracket : c ≠ '[' ∧ c ≠ ']'
  not_brace : c ≠ '\x7b' ∧ c ≠ '\x7d'

theorem startsNumber_of_toNat {c : Char} (h : 45 ≤ c.toNat ∧ c.toNat ≤ 57) : StartsNumber c := by
  have hne (d : Char) (hd : d.toNat < 45 ∨ 57 < d.toNat) : c ≠ d := by
    rintro rfl
    omega
  refine ⟨?_, ?_, hne _ (by decide), ?_, ?_⟩
  · simp only [isJsonBlank, Bool.or_eq_false_iff, beq_eq_false_iff_ne]
    exact ⟨⟨⟨hne _ (by decide), hne _ (by decide)⟩, hne _ (by decide)⟩, hne _ (by decide)⟩
  · exact ⟨hne _ (by decide), hne _ (by decide), hne _ (by decide)⟩
  · exact ⟨hne _ (by decide), hne _ (by decide)⟩
  · exact ⟨hne _ (by decide), hne _ (by decide)⟩

theorem exists_startsNumber (n : Int) : ∃ c ds, Text.intChars n = c :: ds ∧ StartsNumber c := by
  unfold Text.intChars Text.signChars
  split
  · exact ⟨'-', _, rfl, startsNumber_of_toNat (by decide)⟩
  · cases hdigits : Text.natChars n.natAbs with
    | nil => exact absurd hdigits (Text.natChars_ne_nil _)
    | cons d ds =>
      have hd : d ∈ Text.natChars n.natAbs := by
        rw [hdigits]
        exact List.mem_cons_self
      obtain ⟨hleast, hmost⟩ := Text.toNat_of_isDigit (Text.isDigit_of_mem_natChars hd)
      exact ⟨d, ds, rfl, startsNumber_of_toNat ⟨Nat.le_trans (by decide) hleast, hmost⟩⟩

theorem Spells.startsValue {json : Json} {cs : List Char} (h : Spells json cs) :
    StartsValue cs := by
  cases h with
  | integer hn =>
    obtain ⟨c, ds, hcs, hc⟩ := exists_startsNumber _
    exact ⟨c, ds, hcs, hc.not_blank, hc.not_bracket.2, hc.not_brace.2⟩
  | text value => exact startsValue_printText value
  | _ => exact ⟨_, _, rfl, by decide, by decide, by decide⟩

theorem SpellsItems.startsValue {items : List Json} {cs : List Char} (h : SpellsItems items cs) :
    StartsValue cs := by
  cases h with
  | last hblanks hitem => exact hitem.startsValue.append _
  | next hblanks hitem hitems => exact hitem.startsValue.append _

theorem SpellsMembers.startsValue {members : List (String × Json)} {cs : List Char}
    (h : SpellsMembers members cs) : StartsValue cs := by
  cases h with
  | last hblanks hmore hvalue => exact (startsValue_printText _).append _
  | next hblanks hmore hvalue hmembers => exact (startsValue_printText _).append _

/-! ## Blanks -/

section Blanks

variable {blanks cs : List Char} {c : Char}

theorem skipBlanks_append (hblanks : Blank blanks) (hc : isJsonBlank c = false) (cs : List Char) :
    skipBlanks (blanks ++ c :: cs) = c :: cs :=
  Text.dropWhile_append_of_all hblanks fun d hd => by
    cases hd
    exact hc

theorem skipBlanks_append_of_startsValue (hblanks : Blank blanks) (h : StartsValue cs)
    (rest : List Char) : skipBlanks (blanks ++ (cs ++ rest)) = cs ++ rest := by
  obtain ⟨c, ds, rfl, hc, -, -⟩ := h
  exact skipBlanks_append hblanks hc _

/-- No number goes on with a blank or with what stands behind a value. -/
theorem endsNumber_append (hblanks : Blank blanks) (hc : c = ',' ∨ c = ']' ∨ c = '\x7d')
    (cs : List Char) : EndsNumber (blanks ++ c :: cs) := by
  have hblank {d : Char} (hd : isJsonBlank d = true) :
      d.isDigit = false ∧ d ≠ '.' ∧ d ≠ 'e' ∧ d ≠ 'E' := by
    simp only [isJsonBlank, Bool.or_eq_true, beq_iff_eq] at hd
    rcases hd with ((rfl | rfl) | rfl) | rfl <;> decide
  cases blanks with
  | nil =>
    rintro d ⟨⟩
    rcases hc with rfl | rfl | rfl <;> decide
  | cons b blanks =>
    rintro d ⟨⟩
    exact hblank (hblanks b List.mem_cons_self)

end Blanks

/-! ## Readers -/

section Readers

variable {cs behind more rest : List Char}

theorem gives_text {text : Option String} (h : Gives readText cs text rest) :
    Gives readValue ('"' :: cs) (ofReadText text) rest := by
  obtain ⟨hlt, hread⟩ := h
  refine ⟨Nat.lt_succ_of_lt hlt, ?_⟩
  rw [readValue, hread]
  rfl

theorem gives_number {c : Char} {json : Json} (hc : StartsNumber c)
    (h : Gives readNumber (c :: cs) json rest) : Gives readValue (c :: cs) json rest := by
  obtain ⟨hlt, hread⟩ := h
  obtain ⟨hn, ht, hf⟩ := hc.not_letter
  refine ⟨hlt, ?_⟩
  rw [readValue, hread]
  · rintro ds ⟨⟩
    exact hn rfl
  · rintro ds ⟨⟩
    exact ht rfl
  · rintro ds ⟨⟩
    exact hf rfl
  · rintro ds ⟨⟩
    exact hc.not_quote rfl
  · rintro ds ⟨⟩
    exact hc.not_bracket.1 rfl
  · rintro ds ⟨⟩
    exact hc.not_brace.1 rfl

/-! ### Items -/

section Items

variable {item : Json} {items : List Json}

theorem gives_noItems (h : skipBlanks cs = ']' :: rest) :
    Gives readValue ('[' :: cs) (.array []) rest := by
  have hle := length_skipBlanks_le cs
  rw [h, List.length_cons] at hle
  refine ⟨Nat.lt_succ_of_lt hle, ?_⟩
  rw [readValue]
  split
  · next heq =>
    cases h.symm.trans heq
    rfl
  · next hne => exact absurd h (hne _)

theorem gives_array (hne : ∀ ds, skipBlanks cs ≠ ']' :: ds)
    (h : Gives readItems (skipBlanks cs) items rest) :
    Gives readValue ('[' :: cs) (.array items) rest := by
  obtain ⟨hlt, hread⟩ := h
  have hle := length_skipBlanks_le cs
  refine ⟨Nat.lt_succ_of_lt (Nat.lt_of_lt_of_le hlt hle), ?_⟩
  rw [readValue]
  split
  · next heq => exact absurd heq (hne _)
  · rw [hread]
    rfl

theorem gives_lastItem (hitem : Gives readValue cs item behind)
    (hclose : skipBlanks behind = ']' :: rest) : Gives readItems cs [item] rest := by
  obtain ⟨hlt, hread⟩ := hitem
  have hle := length_skipBlanks_le behind
  rw [hclose, List.length_cons] at hle
  refine ⟨by omega, ?_⟩
  rw [readItems, hread]
  dsimp only [bind, Option.bind]
  split
  · next heq => cases hclose.symm.trans heq
  · next heq =>
    cases hclose.symm.trans heq
    rfl
  · next hbracket => exact absurd hclose (hbracket _)

theorem gives_item (hitem : Gives readValue cs item behind)
    (hcomma : skipBlanks behind = ',' :: more)
    (hitems : Gives readItems (skipBlanks more) items rest) :
    Gives readItems cs (item :: items) rest := by
  obtain ⟨hlt, hread⟩ := hitem
  obtain ⟨hltItems, hreadItems⟩ := hitems
  have hle := length_skipBlanks_le behind
  have hleMore := length_skipBlanks_le more
  rw [hcomma, List.length_cons] at hle
  refine ⟨by omega, ?_⟩
  rw [readItems, hread]
  dsimp only [bind, Option.bind]
  split
  · next heq =>
    cases hcomma.symm.trans heq
    rw [hreadItems]
    rfl
  · next heq => cases hcomma.symm.trans heq
  · next hne _ => exact absurd hcomma (hne _)

end Items

/-! ### Members -/

section Members

variable {name : Option String} {value : Json} {members : List (Option String × Json)}

theorem gives_noMembers (h : skipBlanks cs = '\x7d' :: rest) :
    Gives readValue ('\x7b' :: cs) (.object []) rest := by
  have hle := length_skipBlanks_le cs
  rw [h, List.length_cons] at hle
  refine ⟨Nat.lt_succ_of_lt hle, ?_⟩
  rw [readValue]
  split
  · next heq =>
    cases h.symm.trans heq
    rfl
  · next hne => exact absurd h (hne _)

theorem gives_object (hne : ∀ ds, skipBlanks cs ≠ '\x7d' :: ds)
    (h : Gives readMembers (skipBlanks cs) members rest) :
    Gives readValue ('\x7b' :: cs) (ofMembers members) rest := by
  obtain ⟨hlt, hread⟩ := h
  have hle := length_skipBlanks_le cs
  refine ⟨Nat.lt_succ_of_lt (Nat.lt_of_lt_of_le hlt hle), ?_⟩
  rw [readValue]
  split
  · next heq => exact absurd heq (hne _)
  · rw [hread]
    rfl

variable {colon : List Char}

theorem gives_lastMember (hname : Gives readText cs name behind)
    (hcolon : skipBlanks behind = ':' :: colon)
    (hvalue : Gives readValue (skipBlanks colon) value more)
    (hclose : skipBlanks more = '\x7d' :: rest) :
    Gives readMembers ('"' :: cs) [(name, value)] rest := by
  obtain ⟨hlt, hread⟩ := hname
  obtain ⟨hltValue, hreadValue⟩ := hvalue
  have hle := length_skipBlanks_le behind
  have hleColon := length_skipBlanks_le colon
  have hleMore := length_skipBlanks_le more
  rw [hcolon, List.length_cons] at hle
  rw [hclose, List.length_cons] at hleMore
  refine ⟨by rw [List.length_cons]; omega, ?_⟩
  rw [readMembers, hread]
  dsimp only [bind, Option.bind]
  split
  · next heq =>
    cases hcolon.symm.trans heq
    rw [hreadValue]
    dsimp only
    split
    · next heq => cases hclose.symm.trans heq
    · next heq =>
      cases hclose.symm.trans heq
      rfl
    · next hbrace => exact absurd hclose (hbrace _)
  · next hne => exact absurd hcolon (hne _)

theorem gives_member {next : List Char} (hname : Gives readText cs name behind)
    (hcolon : skipBlanks behind = ':' :: colon)
    (hvalue : Gives readValue (skipBlanks colon) value more)
    (hcomma : skipBlanks more = ',' :: next)
    (hmembers : Gives readMembers (skipBlanks next) members rest) :
    Gives readMembers ('"' :: cs) ((name, value) :: members) rest := by
  obtain ⟨hlt, hread⟩ := hname
  obtain ⟨hltValue, hreadValue⟩ := hvalue
  obtain ⟨hltMembers, hreadMembers⟩ := hmembers
  have hle := length_skipBlanks_le behind
  have hleColon := length_skipBlanks_le colon
  have hleMore := length_skipBlanks_le more
  have hleNext := length_skipBlanks_le next
  rw [hcolon, List.length_cons] at hle
  rw [hcomma, List.length_cons] at hleMore
  refine ⟨by rw [List.length_cons]; omega, ?_⟩
  rw [readMembers, hread]
  dsimp only [bind, Option.bind]
  split
  · next heq =>
    cases hcolon.symm.trans heq
    rw [hreadValue]
    dsimp only
    split
    · next heq =>
      cases hcomma.symm.trans heq
      rw [hreadMembers]
      rfl
    · next heq => cases hcomma.symm.trans heq
    · next hne _ => exact absurd hcomma (hne _)
  · next hne => exact absurd hcolon (hne _)

end Members

end Readers

/-! ## Layouts are read back -/

theorem printText_append (text : String) (rest : List Char) :
    printText text ++ rest = '"' :: (text.toList.flatMap textChar ++ '"' :: rest) := by
  simp [printText]

theorem ofMembers_some (members : List (String × Json)) :
    ofMembers (members.map fun member => (some member.1, member.2)) = .object members := by
  have hall : (members.map fun member => (some member.1, member.2)).mapM
      (fun (member : Option String × Json) => member.1.map (·, member.2)) = some members := by
    induction members with
    | nil => rfl
    | cons member members ih =>
      rw [List.map_cons, List.mapM_cons, ih]
      rfl
  unfold ofMembers
  rw [hall]

mutual

theorem Spells.reads {json : Json} {cs rest : List Char} (h : Spells json cs)
    (hrest : EndsNumber rest) : Gives readValue (cs ++ rest) json rest := by
  cases h with
  | null => exact ⟨by simp; omega, by simp only [List.cons_append, List.nil_append, readValue]⟩
  | true => exact ⟨by simp; omega, by simp only [List.cons_append, List.nil_append, readValue]⟩
  | false => exact ⟨by simp; omega, by simp only [List.cons_append, List.nil_append, readValue]⟩
  | @integer n hn =>
    have hread := gives_integer hn hrest
    obtain ⟨c, ds, hcs, hc⟩ := exists_startsNumber n
    rw [hcs] at hread ⊢
    exact gives_number hc hread
  | text value =>
    rw [printText_append]
    exact gives_text (gives_printedText value rest)
  | noItems => exact gives_noItems (skipBlanks_append blank_nil (by decide) rest)
  | array hblanks hitems =>
    have hskip := skipBlanks_append_of_startsValue hblanks hitems.startsValue rest
    obtain ⟨c, ds, hcs, -, hbracket, -⟩ := hitems.startsValue.append rest
    rw [List.cons_append, List.append_assoc]
    refine gives_array ?_ ?_
    · rw [hskip, hcs]
      rintro ds ⟨⟩
      exact hbracket rfl
    · rw [hskip]
      exact hitems.reads rest
  | noMembers => exact gives_noMembers (skipBlanks_append blank_nil (by decide) rest)
  | @object members blanks cs hblanks hmembers =>
    have hskip := skipBlanks_append_of_startsValue hblanks hmembers.startsValue rest
    obtain ⟨c, ds, hcs, -, -, hbrace⟩ := hmembers.startsValue.append rest
    rw [List.cons_append, List.append_assoc, ← ofMembers_some]
    refine gives_object ?_ ?_
    · rw [hskip, hcs]
      rintro ds ⟨⟩
      exact hbrace rfl
    · rw [hskip]
      exact hmembers.reads rest

theorem SpellsItems.reads {items : List Json} {cs : List Char} (h : SpellsItems items cs)
    (rest : List Char) : Gives readItems (cs ++ rest) items rest := by
  cases h with
  | last hblanks hitem =>
    rw [List.append_assoc, List.append_assoc]
    exact gives_lastItem (hitem.reads (endsNumber_append hblanks (.inr (.inl rfl)) rest))
      (skipBlanks_append hblanks (by decide) rest)
  | next hblanks hitem hitems =>
    have hmore := hitems.reads rest
    rw [← skipBlanks_append_of_startsValue hblanks hitems.startsValue rest] at hmore
    rw [List.append_assoc, List.cons_append, List.append_assoc]
    exact gives_item (hitem.reads (endsNumber_append blank_nil (.inl rfl) _))
      (skipBlanks_append blank_nil (by decide) _) hmore

theorem SpellsMembers.reads {members : List (String × Json)} {cs : List Char}
    (h : SpellsMembers members cs) (rest : List Char) :
    Gives readMembers (cs ++ rest) (members.map fun member => (some member.1, member.2)) rest := by
  cases h with
  | last hblanks hmore hvalue =>
    have hread := hvalue.reads (endsNumber_append hmore (.inr (.inr rfl)) rest)
    rw [← skipBlanks_append_of_startsValue hblanks hvalue.startsValue] at hread
    simp only [List.append_assoc, List.cons_append, List.nil_append, printText_append]
    exact gives_lastMember (gives_printedText _ _) (skipBlanks_append blank_nil (by decide) _)
      hread (skipBlanks_append hmore (by decide) rest)
  | @next name value members blanks cs more ds hblanks hmore hvalue hmembers =>
    have hnext := hmembers.reads rest
    rw [← skipBlanks_append_of_startsValue hmore hmembers.startsValue rest] at hnext
    have hread := hvalue.reads (endsNumber_append blank_nil (.inl rfl) (more ++ (ds ++ rest)))
    rw [← skipBlanks_append_of_startsValue hblanks hvalue.startsValue] at hread
    simp only [List.append_assoc, List.cons_append, printText_append]
    exact gives_member (gives_printedText _ _) (skipBlanks_append blank_nil (by decide) _)
      hread (skipBlanks_append blank_nil (by decide) _) hnext

end

/-- However a value is laid out, it is read back. -/
theorem Spells.read?_eq {json : Json} {cs : List Char} (h : Spells json cs) :
    read? (String.ofList cs) = some json := by
  have hread := h.reads (fun d hd => absurd hd (by simp) : EndsNumber [])
  have hskip := skipBlanks_append_of_startsValue blank_nil h.startsValue []
  rw [List.append_nil, List.nil_append] at hskip
  rw [List.append_nil, ← hskip] at hread
  obtain ⟨hlt, hread⟩ := hread
  unfold read?
  rw [String.toList_ofList, hread]
  rfl

/-! ## Printed values -/

mutual

/-- All numbers in the value are 64-bit integers, and nothing in it is garbled. -/
inductive Plain : Json → Prop
  | null : Plain .null
  | bool (flag : Bool) : Plain (.bool flag)
  | integer {n : Int} (hn : Fits n) : Plain (.integer n)
  | text (value : String) : Plain (.text value)
  | array {items : List Json} : PlainItems items → Plain (.array items)
  | object {members : List (String × Json)} : PlainMembers members → Plain (.object members)

inductive PlainItems : List Json → Prop
  | nil : PlainItems []
  | cons {item : Json} {items : List Json} :
      Plain item → PlainItems items → PlainItems (item :: items)

inductive PlainMembers : List (String × Json) → Prop
  | nil : PlainMembers []
  | cons {name : String} {value : Json} {members : List (String × Json)} :
      Plain value → PlainMembers members → PlainMembers ((name, value) :: members)

end

/-! ### One line -/

mutual

theorem Plain.spells_compact : {json : Json} → json.Plain → Spells json json.compactChars
  | _, .null => .null
  | _, .bool true => .true
  | _, .bool false => .false
  | _, .integer hn => .integer hn
  | _, .text value => .text value
  | _, .array .nil => .noItems
  | _, .array (.cons hitem hitems) =>
    @Spells.array _ [] _ blank_nil (spells_compactItems hitem.spells_compact hitems)
  | _, .object .nil => .noMembers
  | _, @Plain.object _ (@PlainMembers.cons name value members hvalue hmembers) => by
    change Spells _ ('\x7b' :: printText name ++ ':' :: value.compactChars ++
      compactMembers members)
    rw [List.cons_append, List.cons_append, List.append_assoc]
    exact @Spells.object _ [] _ blank_nil
      (spells_compactMembers name hvalue.spells_compact hmembers)

/-- Items behind one that is spelt. -/
theorem spells_compactItems {item : Json} {cs : List Char} (hitem : Spells item cs) :
    {items : List Json} → PlainItems items →
      SpellsItems (item :: items) (cs ++ compactItems items)
  | _, .nil => .last blank_nil hitem
  | _, .cons hnext hitems =>
    @SpellsItems.next _ _ _ [] _ blank_nil hitem
      (spells_compactItems hnext.spells_compact hitems)

/-- Members behind one whose value is spelt. -/
theorem spells_compactMembers (name : String) {value : Json} {cs : List Char}
    (hvalue : Spells value cs) : {members : List (String × Json)} → PlainMembers members →
      SpellsMembers ((name, value) :: members)
        (printText name ++ ':' :: (cs ++ compactMembers members))
  | _, .nil => @SpellsMembers.last _ _ [] _ [] blank_nil blank_nil hvalue
  | _, @PlainMembers.cons other next members hnext hmembers => by
    change SpellsMembers _ (printText name ++ ':' ::
      (cs ++ (',' :: printText other ++ ':' :: next.compactChars ++ compactMembers members)))
    rw [List.cons_append, List.cons_append, List.append_assoc]
    exact @SpellsMembers.next _ _ _ [] _ [] _ blank_nil blank_nil hvalue
      (spells_compactMembers other hnext.spells_compact hmembers)

end

/-! ### One member a line -/

theorem blank_space : Blank [' '] := by
  intro c hc
  rw [List.mem_singleton.mp hc]
  decide

theorem blank_newLine (depth : Nat) : Blank (newLine depth) := by
  intro c hc
  rcases List.mem_cons.mp hc with rfl | hc
  · decide
  · rw [List.eq_of_mem_replicate hc]
    decide

mutual

theorem Plain.spells_pretty (depth : Nat) :
    {json : Json} → json.Plain → Spells json (json.prettyChars depth)
  | _, .null => .null
  | _, .bool true => .true
  | _, .bool false => .false
  | _, .integer hn => .integer hn
  | _, .text value => .text value
  | _, .array .nil => .noItems
  | _, @Plain.array _ (@PlainItems.cons item items hitem hitems) => by
    change Spells _ ('[' :: newLine (depth + 1) ++ item.prettyChars (depth + 1) ++
      prettyItems depth items)
    rw [List.cons_append, List.cons_append, List.append_assoc]
    exact .array (blank_newLine _)
      (spells_prettyItems depth (hitem.spells_pretty (depth + 1)) hitems)
  | _, .object .nil => .noMembers
  | _, @Plain.object _ (@PlainMembers.cons name value members hvalue hmembers) => by
    change Spells _ ('\x7b' :: newLine (depth + 1) ++ printText name ++ ':' :: ' ' ::
      value.prettyChars (depth + 1) ++ prettyMembers depth members)
    simp only [List.cons_append, List.append_assoc]
    exact .object (blank_newLine _)
      (spells_prettyMembers depth name (hvalue.spells_pretty (depth + 1)) hmembers)

/-- Items behind one that is spelt. -/
theorem spells_prettyItems (depth : Nat) {item : Json} {cs : List Char} (hitem : Spells item cs) :
    {items : List Json} → PlainItems items →
      SpellsItems (item :: items) (cs ++ prettyItems depth items)
  | _, .nil => .last (blank_newLine depth) hitem
  | _, @PlainItems.cons next items hnext hitems => by
    change SpellsItems _ (cs ++ (',' :: newLine (depth + 1) ++ next.prettyChars (depth + 1) ++
      prettyItems depth items))
    rw [List.cons_append, List.cons_append, List.append_assoc]
    exact .next (blank_newLine _) hitem
      (spells_prettyItems depth (hnext.spells_pretty (depth + 1)) hitems)

/-- Members behind one whose value is spelt. -/
theorem spells_prettyMembers (depth : Nat) (name : String) {value : Json} {cs : List Char}
    (hvalue : Spells value cs) : {members : List (String × Json)} → PlainMembers members →
      SpellsMembers ((name, value) :: members)
        (printText name ++ ':' :: ' ' :: (cs ++ prettyMembers depth members))
  | _, .nil => .last blank_space (blank_newLine depth) hvalue
  | _, @PlainMembers.cons other next members hnext hmembers => by
    change SpellsMembers _ (printText name ++ ':' :: ' ' :: (cs ++
      (',' :: newLine (depth + 1) ++ printText other ++ ':' :: ' ' ::
        next.prettyChars (depth + 1) ++ prettyMembers depth members)))
    simp only [List.cons_append, List.append_assoc]
    exact .next blank_space (blank_newLine _) hvalue
      (spells_prettyMembers depth other (hnext.spells_pretty (depth + 1)) hmembers)

end

/-! ### Both layouts -/

theorem read?_compact {json : Json} (h : json.Plain) : read? json.compact = some json :=
  h.spells_compact.read?_eq

theorem read?_pretty {json : Json} (h : json.Plain) : read? json.pretty = some json :=
  (h.spells_pretty 0).read?_eq

end MediaNaming.Json
