import MediaNaming.Proofs.Lexing.Positions

/-!
# Where scripts are cut

Whatever is passed over, the characters that are left are the last ones of the script. So the bytes
in front of them end between two characters, and there are never fewer of them than before.
-/

namespace MediaNaming.Lexer

/--
The places that are got to in a script, and the characters that are left there: behind each
character, behind blanks and comments, behind the quote that ends a text and behind each token.
-/
inductive Reaches (script : String) : Position → List Char → Prop
  | start : Reaches script .start script.toList
  | after {p : Position} {c : Char} {cs : List Char} :
      Reaches script p (c :: cs) → Reaches script (p.after c) cs
  | trivia {trivia : Trivia} {p q : Position} {cs rest : List Char}
      (hskip : skipTrivia trivia p cs = .ok (q, rest)) :
      Reaches script p cs → Reaches script q rest
  | quoted {quote : Char} {start p q : Position} {cs value rest : List Char}
      (hread : quotedText quote start p cs = .ok (value, q, rest)) :
      Reaches script p cs → Reaches script q rest
  | token {p : Position} {c : Char} {cs : List Char} {taken : Taken Lexeme (c :: cs)}
      (htoken : token p c cs = .ok taken) :
      Reaches script p (c :: cs) → Reaches script taken.value.2 taken.rest

/-- The number of bytes of the script in front of the characters that are left. -/
def byteIndex (script : String) (rest : List Char) : String.Pos.Raw :=
  ⟨script.utf8ByteSize - (String.ofList rest).utf8ByteSize⟩

/-! ## Where the rest stands -/

/-- What is left stands behind characters that lead to the place. -/
def StandsAt (script : String) (p : Position) (rest : List Char) : Prop :=
  ∃ before, script.toList = before ++ rest ∧ p = Position.start.advance before

section Places

variable {script : String} {p : Position} {before used cs rest : List Char}

theorem StandsAt.advance (h : StandsAt script p (used ++ rest)) :
    StandsAt script (p.advance used) rest := by
  obtain ⟨before, hscript, rfl⟩ := h
  exact ⟨before ++ used, by rw [hscript, List.append_assoc],
    (Position.advance_append _ before used).symm⟩

theorem Reaches.standsAt (h : Reaches script p cs) : StandsAt script p cs := by
  -- Whatever is passed over is a front part of what was left, and the place follows it.
  induction h with
  | start => exact ⟨[], rfl, rfl⟩
  | @after p c cs _ ih =>
    have hstands : StandsAt script p ([c] ++ cs) := ih
    exact hstands.advance
  | trivia hskip _ ih =>
    obtain ⟨gap, rfl, -, rfl⟩ := gap_of_skipTrivia hskip
    exact ih.advance
  | @quoted quote _ _ _ _ _ rest hread _ ih =>
    obtain ⟨body, rfl, -, rfl⟩ := unescapes_of_quotedText hread
    rw [← List.singleton_append, ← List.append_assoc] at ih
    exact ih.advance
  | token htoken _ ih =>
    obtain ⟨used, hused, -, hend⟩ := (cuts_token _).denotes _ _ _ htoken
    rw [hused] at ih
    rw [hend]
    exact ih.advance

theorem Reaches.advance (h : Reaches script p (used ++ rest)) :
    Reaches script (p.advance used) rest := by
  induction used generalizing p with
  | nil => exact h
  | cons c used ih => exact ih h.after

theorem reaches_of_append (h : script.toList = before ++ rest) :
    Reaches script (Position.start.advance before) rest :=
  Reaches.advance (h ▸ .start)

/-! ## Bytes -/

theorem byteIndex_of_append (h : script.toList = before ++ rest) :
    byteIndex script rest = (String.ofList before).rawEndPos := by
  have hscript : script = String.ofList before ++ String.ofList rest := by
    rw [← String.ofList_append, ← h, String.ofList_toList]
  rw [byteIndex, hscript, String.utf8ByteSize_append, Nat.add_sub_cancel]
  rfl

theorem Reaches.isValid_byteIndex (h : Reaches script p rest) :
    (byteIndex script rest).IsValid script := by
  obtain ⟨before, hscript, -⟩ := h.standsAt
  refine String.Pos.Raw.isValid_iff_exists_append.mpr
    ⟨String.ofList before, String.ofList rest, ?_, byteIndex_of_append hscript⟩
  rw [← String.ofList_append, ← hscript, String.ofList_toList]

theorem byteIndex_le (h : rest <:+ cs) : byteIndex script cs ≤ byteIndex script rest := by
  obtain ⟨used, rfl⟩ := h
  refine String.Pos.Raw.le_iff.mpr (Nat.sub_le_sub_left ?_ _)
  rw [String.ofList_append, String.utf8ByteSize_append]
  exact Nat.le_add_left _ _

/-- No character is without bytes. -/
theorem byteIndex_lt (hreaches : Reaches script p cs) (h : rest <:+ cs)
    (hlt : rest.length < cs.length) : byteIndex script cs < byteIndex script rest := by
  obtain ⟨before, hscript, -⟩ := hreaches.standsAt
  obtain ⟨used, rfl⟩ := h
  have hused : (String.ofList used).utf8ByteSize ≠ 0 := by
    intro hzero
    rw [String.utf8ByteSize_eq_zero_iff, String.ofList_eq_empty_iff] at hzero
    simp [hzero] at hlt
  have hmore : script.toList = (before ++ used) ++ rest := by rw [hscript, List.append_assoc]
  -- Both indices are sizes of front parts of the script, one of which is longer by `used`.
  rw [byteIndex_of_append hscript, byteIndex_of_append hmore, String.ofList_append,
    String.Pos.Raw.lt_iff]
  simp only [String.byteIdx_rawEndPos, String.utf8ByteSize_append]
  omega

end Places

/-! ## Scripts -/

/-- What holds of all the places that are got to while a script is cut into tokens. -/
structure StaysInside (script : String) : Prop where
  /-- The bytes in front of what is left end between two characters, or where the script ends. -/
  boundary : ∀ p rest, Reaches script p rest → (byteIndex script rest).IsValid script
  /-- Blanks and comments are not gone back behind. -/
  skips : ∀ trivia p q cs rest, skipTrivia trivia p cs = .ok (q, rest) →
    byteIndex script cs ≤ byteIndex script rest
  /-- A token takes one byte or more. -/
  takes : ∀ p c cs taken, Reaches script p (c :: cs) → token p c cs = .ok taken →
    byteIndex script (c :: cs) < byteIndex script taken.rest
  /-- What is wrong is at a place that is got to. -/
  fails : ∀ error, tokenize script = .error error → ∃ rest, Reaches script error.position rest
  /-- Every token starts at a place that is got to, and nothing is left at the end. -/
  ends : ∀ list, tokenize script = .ok list →
    (∀ token ∈ list.tokens, ∃ rest, Reaches script token.position rest) ∧
      Reaches script list.stop []

theorem IsPlaceOf.reaches {script : String} {place : Position}
    (h : IsPlaceOf script.toList place) : ∃ rest, Reaches script place rest := by
  obtain ⟨offset, hle, rfl⟩ := h
  have hscript := (List.take_append_drop offset script.toList).symm
  have hreaches := reaches_of_append hscript
  rw [← positionAt_append (script.toList.take offset) (script.toList.drop offset), ← hscript,
    List.length_take_of_le hle] at hreaches
  exact ⟨_, hreaches⟩

theorem staysInside (script : String) : StaysInside script where
  boundary _ _ := Reaches.isValid_byteIndex
  skips trivia p q cs rest hskip := by
    obtain ⟨gap, rfl, -, -⟩ := gap_of_skipTrivia hskip
    exact byteIndex_le (List.suffix_append gap rest)
  takes p c cs taken hreaches htoken := by
    obtain ⟨used, hused, -, -⟩ := (cuts_token c).denotes _ _ _ htoken
    exact byteIndex_lt hreaches ⟨used, hused.symm⟩ taken.shorter
  fails error herror := (isPlaceOf_of_tokenize herror).reaches
  ends list hlist := by
    have hlocated := located_of_tokenize hlist
    refine ⟨fun token htoken => ?_, ?_⟩
    · exact (hlocated.isPlaceOf (.inr ⟨token, htoken, rfl⟩)).reaches
    · rw [hlocated.stop, positionAt_length]
      exact reaches_of_append (List.append_nil _).symm

end MediaNaming.Lexer
