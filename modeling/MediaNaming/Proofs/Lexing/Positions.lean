import Mathlib.Data.List.DropRight
import Mathlib.Data.List.Forall2
import MediaNaming.Proofs.Grammar.Places
import MediaNaming.Proofs.Lexing.Gaps
import MediaNaming.Proofs.Lexing.Lexemes

/-!
# Where tokens are

Every token has a span of its own in the script: the characters of the span are a lexeme of the
token, and its place is the line and the column where the span starts. All that is outside the spans
are gaps. What is wrong with a script is at a line and a column of it, too.
-/

namespace MediaNaming.Lexer

/-! ## Places -/

/-- The line and the column behind as many characters: both count from one, lines by the new lines
and columns by the characters behind the last of these. -/
def positionAt (cs : List Char) (offset : Nat) : Position where
  line := 1 + (cs.take offset).count '\n'
  column := 1 + ((cs.take offset).rtakeWhile fun c => c != '\n').length

section Places

variable {cs before used behind : List Char} {p : Position}

theorem advance_start (cs : List Char) :
    Position.start.advance cs =
      ⟨1 + cs.count '\n', 1 + (cs.rtakeWhile fun c => c != '\n').length⟩ := by
  -- The last character decides whether a line starts behind it.
  induction cs using List.reverseRecOn with
  | nil => rfl
  | append_singleton cs c ih =>
    rw [Position.advance_append, ih, Position.advance_cons, Position.advance_nil, Position.after,
      List.count_append, List.rtakeWhile_concat]
    by_cases hc : c = '\n'
    · simp [hc, Nat.add_assoc]
    · simp [hc, Nat.add_assoc]

theorem positionAt_append (before behind : List Char) :
    positionAt (before ++ behind) before.length = Position.start.advance before := by
  rw [advance_start, positionAt, List.take_left]

theorem positionAt_length (cs : List Char) :
    positionAt cs cs.length = Position.start.advance cs := by
  simpa using positionAt_append cs []

/-- The position is that of one of the characters, or of the end. -/
def IsPlaceOf (cs : List Char) (position : Position) : Prop :=
  ∃ offset, offset ≤ cs.length ∧ position = positionAt cs offset

theorem isPlaceOf_advance (h : used <+: cs) : IsPlaceOf cs (Position.start.advance used) := by
  obtain ⟨behind, rfl⟩ := h
  exact ⟨used.length, by simp, (positionAt_append used behind).symm⟩

end Places

/-! ## Spans -/

/-- A stretch of a text, from one offset up to another. -/
structure Span where
  start : Nat
  stop : Nat

/-- The characters of the text that are within the span. -/
def Span.chars (cs : List Char) (span : Span) : List Char :=
  (cs.drop span.start).take (span.stop - span.start)

/-- The span is where the token stands. -/
structure Span.Holds (cs : List Char) (span : Span) (token : Token) : Prop where
  nonempty : span.start < span.stop
  inside : span.stop ≤ cs.length
  lexeme : Denotes (span.chars cs) token.kind
  place : token.position = positionAt cs span.start

/-- From the offset on the spans come one after the other, with gaps between them and at the end. -/
inductive Covered (cs : List Char) : Nat → List Span → Prop
  | last {offset : Nat} : Gap true (cs.drop offset) → Covered cs offset []
  | next {offset : Nat} {span : Span} {spans : List Span} (hle : offset ≤ span.start) :
      Gap false (Span.chars cs ⟨offset, span.start⟩) → Covered cs span.stop spans →
      Covered cs offset (span :: spans)

/-- The tokens stand in spans of the text that leave out nothing but gaps, and it ends where the
text ends. -/
structure Located (cs : List Char) (offset : Nat) (list : TokenList) : Prop where
  spans : ∃ spans, List.Forall₂ (Span.Holds cs) spans list.tokens ∧ Covered cs offset spans
  stop : list.stop = positionAt cs cs.length

section Spans

variable {cs : List Char} {p : Position} {list : TokenList}

theorem chars_append (before used behind : List Char) :
    Span.chars (before ++ used ++ behind) ⟨before.length, (before ++ used).length⟩ = used := by
  simp [Span.chars]

/-- A token in front of the others, behind a gap, is in one more span. -/
theorem Located.cons {before gap used behind : List Char} {kind : TokenKind}
    (hgap : Gap false gap) (hused : used ≠ []) (hlexeme : Denotes used kind)
    (h : Located (before ++ gap ++ used ++ behind) (before ++ gap ++ used).length list) :
    Located (before ++ gap ++ used ++ behind) before.length
      ⟨⟨kind, Position.start.advance (before ++ gap)⟩ :: list.tokens, list.stop⟩ := by
  obtain ⟨spans, hholds, hcovered⟩ := h.spans
  have hholdsFirst : Span.Holds (before ++ gap ++ used ++ behind)
      ⟨(before ++ gap).length, (before ++ gap ++ used).length⟩
      ⟨kind, Position.start.advance (before ++ gap)⟩ := by
    refine ⟨?_, ?_, ?_, ?_⟩
    · simpa [List.length_pos_iff] using hused
    · simp
    · rwa [chars_append]
    · rw [List.append_assoc, positionAt_append]
  refine ⟨⟨_, .cons hholdsFirst hholds, .next ?_ ?_ hcovered⟩, h.stop⟩
  · simp
  · rw [List.append_assoc, chars_append]
    exact hgap

/-- Behind any characters, the tokens of a text stand in spans of it. -/
theorem located_of_tokensFrom (before : List Char)
    (h : tokensFrom (Position.start.advance before) cs = .ok list) :
    Located (before ++ cs) before.length list := by
  -- The characters before are those that lead to the place from which the text is read.
  generalize hp : Position.start.advance before = p at h
  fun_induction tokensFrom p cs generalizing before list with
  | case1 => cases h
  | case2 p cs q hskip =>
    cases h
    obtain ⟨gap, hcs, hgap, rfl⟩ := gap_of_skipTrivia hskip
    rw [List.append_nil] at hcs
    subst hcs hp
    refine ⟨⟨[], .nil, .last ?_⟩, ?_⟩
    · rwa [List.drop_left]
    · rw [positionAt_length, Position.advance_append]
  | case3 p cs q c rest hskip ih =>
    obtain ⟨taken, htaken, hrest⟩ := bind_eq_ok_iff.mp h
    obtain ⟨more, hmore, hreturn⟩ := bind_eq_ok_iff.mp hrest
    cases hreturn
    obtain ⟨gap, rfl, hgap, rfl⟩ := gap_of_skipTrivia hskip
    obtain ⟨used, hused, hlexeme, hend⟩ := (cuts_token c).denotes _ _ _ htaken
    have hne : used ≠ [] := by
      rintro rfl
      exact absurd (congrArg List.length hused) (Nat.ne_of_gt taken.shorter)
    subst hp
    have hbehind : Position.start.advance (before ++ gap ++ used) = taken.value.2 := by
      rw [hend, Position.advance_append, Position.advance_append]
    have hgapFirst : Gap false gap := hgap
    have hcons := (ih taken (before ++ gap ++ used) hbehind hmore).cons hgapFirst hne hlexeme
    have htext : before ++ (gap ++ c :: rest) = before ++ gap ++ used ++ taken.rest := by
      simp [hused]
    rw [Position.advance_append, ← htext] at hcons
    exact hcons

/-- What is no token, or a comment or text that does not end, is at a place that is got to. -/
theorem place_of_tokensFrom {error : SyntaxError} (h : tokensFrom p cs = .error error) :
    ∃ used, used <+: cs ∧ error.position = p.advance used := by
  fun_induction tokensFrom p cs with
  | case1 p cs error' hskip =>
    cases h
    exact (place_of_skipTrivia hskip).resolve_left (by simp)
  | case2 => cases h
  | case3 p cs q c rest hskip ih =>
    obtain ⟨gap, rfl, -, rfl⟩ := gap_of_skipTrivia hskip
    rcases bind_eq_error_iff.mp h with h | ⟨taken, htaken, h⟩
    · obtain ⟨used, hused, hplace⟩ := (cuts_token c).fails _ _ _ h
      refine ⟨gap ++ used, (List.prefix_append_right_inj gap).mpr hused, ?_⟩
      rw [hplace, Position.advance_append]
    · rcases bind_eq_error_iff.mp h with h | ⟨more, -, hreturn⟩
      · obtain ⟨first, hfirst, -, hend⟩ := (cuts_token c).denotes _ _ _ htaken
        obtain ⟨used, hused, hplace⟩ := ih taken h
        refine ⟨gap ++ (first ++ used), ?_, ?_⟩
        · rw [hfirst]
          simpa using hused
        · rw [hplace, hend, Position.advance_append, Position.advance_append]
      · cases hreturn

end Spans

/-! ## Scripts -/

theorem Located.isPlaceOf {cs : List Char} {offset : Nat} {list : TokenList} {place : Position}
    (h : Located cs offset list) (hplace : Grammar.IsPlaceIn list.stop list.tokens place) :
    IsPlaceOf cs place := by
  rcases hplace with rfl | ⟨token, htoken, rfl⟩
  · exact ⟨cs.length, Nat.le_refl _, h.stop⟩
  · obtain ⟨spans, hholds, -⟩ := h.spans
    obtain ⟨i, hi, rfl⟩ := List.getElem_of_mem htoken
    have hspan := hholds.get (hholds.length_eq ▸ hi) hi
    exact ⟨_, Nat.le_of_lt (Nat.lt_of_lt_of_le hspan.nonempty hspan.inside), hspan.place⟩

theorem located_of_tokenize {script : String} {list : TokenList}
    (h : tokenize script = .ok list) : Located script.toList 0 list :=
  located_of_tokensFrom [] h

theorem isPlaceOf_of_tokenize {script : String} {error : SyntaxError}
    (h : tokenize script = .error error) : IsPlaceOf script.toList error.position := by
  obtain ⟨used, hused, hplace⟩ := place_of_tokensFrom h
  rw [hplace]
  exact isPlaceOf_advance hused

theorem isPlaceOf_of_parse {script : String} {error : SyntaxError}
    (h : Program.parse script = .error error) : IsPlaceOf script.toList error.position := by
  rcases bind_eq_error_iff.mp h with h | ⟨list, hlist, h⟩
  · exact isPlaceOf_of_tokenize h
  · rcases bind_eq_error_iff.mp h with h | ⟨program, -, hreturn⟩
    · exact (located_of_tokenize hlist).isPlaceOf (Grammar.isPlaceIn_of_statements list.stop h)
    · cases hreturn

/--
The tokens of a script stand where they say and nothing but gaps is left out, and a script that
cannot be cut into tokens or cannot be read is wrong at a place of its text.
-/
theorem script_positions (script : String) :
    (∀ list, tokenize script = .ok list → Located script.toList 0 list) ∧
      ∀ error, tokenize script = .error error ∨ Program.parse script = .error error →
        IsPlaceOf script.toList error.position :=
  ⟨fun _ => located_of_tokenize, fun _ h => h.elim isPlaceOf_of_tokenize isPlaceOf_of_parse⟩

/-- The script cannot be read, and what is wrong is at the given place, if there is one. -/
theorem exists_of_place {script : String} {place : Position}
    (h : (match Program.parse script with
      | .error error => some error.position
      | .ok _ => none) = some place) :
    ∃ error, Program.parse script = .error error ∧ error.position = place := by
  cases hparse : Program.parse script with
  | error error =>
    rw [hparse] at h
    exact ⟨error, rfl, Option.some.inj h⟩
  | ok program =>
    rw [hparse] at h
    cases h

/-- The first script lacks an operand where it ends, the second one the end of a comment. -/
theorem script_positions_of_incomplete :
    let script := "// é\nadd 'Ä\\'' /* ö */ +"
    let unclosed := "add\n /* ü"
    (∃ list, tokenize script = .ok list ∧
      list.tokens = [⟨.word "add", ⟨2, 1⟩⟩, ⟨.text "Ä'", ⟨2, 5⟩⟩, ⟨.punctuation .plus, ⟨2, 19⟩⟩] ∧
      Located script.toList 0 list) ∧
    (∃ error, Program.parse script = .error error ∧ error.position = ⟨2, 20⟩ ∧
      IsPlaceOf script.toList error.position) ∧
    ∃ error, tokenize unclosed = .error error ∧ error.position = ⟨2, 2⟩ ∧
      IsPlaceOf unclosed.toList error.position := by
  intro script unclosed
  have hlist : tokenize script = .ok ⟨[⟨.word "add", ⟨2, 1⟩⟩, ⟨.text "Ä'", ⟨2, 5⟩⟩,
      ⟨.punctuation .plus, ⟨2, 19⟩⟩], ⟨2, 20⟩⟩ := by decide +kernel
  have hunclosed : tokenize unclosed = .error ⟨.unterminatedComment, ⟨2, 2⟩⟩ := by decide +kernel
  obtain ⟨error, hparse, hplace⟩ := @exists_of_place script ⟨2, 20⟩ (by decide +kernel)
  exact ⟨⟨_, hlist, rfl, (script_positions script).1 _ hlist⟩,
    ⟨error, hparse, hplace, (script_positions script).2 error (.inr hparse)⟩,
    ⟨_, hunclosed, rfl, (script_positions unclosed).2 _ (.inl hunclosed)⟩⟩

end MediaNaming.Lexer
