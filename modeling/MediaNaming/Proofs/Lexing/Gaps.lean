import MediaNaming.Proofs.Printing.Spelling

/-!
# Gaps between tokens

The characters that separate tokens: blanks, comments to the end of their line and comments that are
closed. What is passed over between two tokens is a gap, and a line added behind a script changes no
gap but the last one.
-/

namespace MediaNaming.Lexer

/-- Blanks and comments. Only at the end of a script may a comment end without a new line. -/
inductive Gap (atEnd : Bool) : List Char → Prop
  | nil : Gap atEnd []
  | blank {c : Char} {cs : List Char} (hblank : Text.isBlank c = true) :
      Gap atEnd cs → Gap atEnd (c :: cs)
  | line {comment cs : List Char} (hcomment : '\n' ∉ comment) :
      Gap atEnd cs → Gap atEnd ('/' :: '/' :: (comment ++ '\n' :: cs))
  | lastLine {comment : List Char} (hend : atEnd = true) (hcomment : '\n' ∉ comment) :
      Gap atEnd ('/' :: '/' :: comment)
  | block {comment cs : List Char} (hcomment : ¬ ['*', '/'] <:+: comment) :
      Gap atEnd cs → Gap atEnd ('/' :: '*' :: (comment ++ '*' :: '/' :: cs))

/-- What stands in front of characters that are passed over in this state. -/
def Trivia.opening : Trivia → List Char
  | .blank => []
  | .line => ['/', '/']
  | .block _ => ['/', '*']

section Gaps

variable {atEnd : Bool} {c : Char} {cs rest : List Char} {p q start : Position} {trivia : Trivia}

/-! ## Longer comments -/

theorem Gap.line_cons (hc : c ≠ '\n') (h : Gap atEnd ('/' :: '/' :: cs)) :
    Gap atEnd ('/' :: '/' :: c :: cs) := by
  have hmem {comment : List Char} (hcomment : '\n' ∉ comment) : '\n' ∉ c :: comment := by
    rw [List.mem_cons, not_or]
    exact ⟨Ne.symm hc, hcomment⟩
  cases h with
  | blank hblank => exact absurd hblank (by decide)
  | line hcomment hgap => exact .line (hmem hcomment) hgap
  | lastLine hend hcomment => exact .lastLine hend (hmem hcomment)

theorem Gap.block_cons (hc : c = '*' → ∀ ds, cs ++ rest ≠ '/' :: ds)
    (h : Gap atEnd ('/' :: '*' :: cs)) : Gap atEnd ('/' :: '*' :: c :: cs) := by
  cases h with
  | blank hblank => exact absurd hblank (by decide)
  | @block comment cs hcomment hgap =>
    refine @Gap.block atEnd (c :: comment) _ ?_ hgap
    rw [List.infix_cons_iff, not_or]
    refine ⟨?_, hcomment⟩
    rintro ⟨behind, hbehind⟩
    cases hbehind
    exact hc rfl _ rfl

/-! ## What is passed over -/

/-- What is passed over up to the next token is a gap, the last one if no token follows. -/
theorem gap_of_skipTrivia (h : skipTrivia trivia p cs = .ok (q, rest)) :
    ∃ gap, cs = gap ++ rest ∧ Gap rest.isEmpty (trivia.opening ++ gap) ∧ q = p.advance gap := by
  -- Within a comment, what is passed over is a gap together with the opening of the comment.
  fun_induction skipTrivia trivia p cs with
  | case1 p cs ih | case2 p cs ih =>
    obtain ⟨gap, rfl, hgap, rfl⟩ := ih h
    exact ⟨_, rfl, hgap, rfl⟩
  | case3 p c cs _ _ hblank ih =>
    obtain ⟨gap, rfl, hgap, rfl⟩ := ih h
    exact ⟨c :: gap, rfl, .blank hblank hgap, rfl⟩
  | case4 =>
    cases h
    exact ⟨[], rfl, .nil, rfl⟩
  | case5 p c cs ih =>
    obtain ⟨gap, rfl, hgap, rfl⟩ := ih h
    refine ⟨c :: gap, rfl, ?_, rfl⟩
    split at hgap
    · next hc =>
      subst hc
      exact @Gap.line _ [] gap List.not_mem_nil hgap
    · next hc => exact hgap.line_cons hc
  | case6 start p cs ih =>
    obtain ⟨gap, rfl, hgap, rfl⟩ := ih h
    exact ⟨_, rfl, @Gap.block _ [] gap (by decide) hgap, rfl⟩
  | case7 start p c cs hclosed ih =>
    obtain ⟨gap, rfl, hgap, rfl⟩ := ih h
    exact ⟨c :: gap, rfl, hgap.block_cons fun hc ds hds => hclosed ds hc hds, rfl⟩
  | case8 => cases h
  | case9 trivia p hblock =>
    cases h
    refine ⟨[], rfl, ?_, rfl⟩
    cases trivia with
    | blank => exact .nil
    | line => exact .lastLine rfl List.not_mem_nil
    | block start => exact absurd rfl (hblock start)

/-- A comment that is not closed is reported where it starts. -/
theorem place_of_skipTrivia {error : SyntaxError} (h : skipTrivia trivia p cs = .error error) :
    trivia = .block error.position ∨
      ∃ used, used <+: cs ∧ error.position = p.advance used := by
  fun_induction skipTrivia trivia p cs with
  | case1 p cs ih =>
    obtain ⟨used, hused, hplace⟩ := (ih h).resolve_left (by simp)
    exact .inr ⟨'/' :: '/' :: used, by simpa using hused, hplace⟩
  | case2 p cs ih =>
    rcases ih h with hstart | ⟨used, hused, hplace⟩
    · exact .inr ⟨[], List.nil_prefix, (Trivia.block.inj hstart).symm⟩
    · exact .inr ⟨'/' :: '*' :: used, by simpa using hused, hplace⟩
  | case3 p c cs _ _ _ ih =>
    obtain ⟨used, hused, hplace⟩ := (ih h).resolve_left (by simp)
    exact .inr ⟨c :: used, by simpa using hused, hplace⟩
  | case4 | case9 => cases h
  | case5 p c cs ih =>
    obtain ⟨used, hused, hplace⟩ := (ih h).resolve_left (by split <;> simp)
    exact .inr ⟨c :: used, by simpa using hused, hplace⟩
  | case6 start p cs ih =>
    obtain ⟨used, hused, hplace⟩ := (ih h).resolve_left (by simp)
    exact .inr ⟨'*' :: '/' :: used, by simpa using hused, hplace⟩
  | case7 start p c cs _ ih =>
    rcases ih h with hstart | ⟨used, hused, hplace⟩
    · exact .inl hstart
    · exact .inr ⟨c :: used, by simpa using hused, hplace⟩
  | case8 start p =>
    cases h
    exact .inl rfl

/-! ## A line behind a script -/

/-- The text is empty or starts with a new line. -/
def StartsLine (tail : List Char) : Prop :=
  ∀ d ∈ tail.head?, d = '\n'

/-- A new line does not make a comment of a slash, nor does it close one. -/
theorem StartsLine.append_ne {tail : List Char} (htail : StartsLine tail) {d : Char}
    (hd : d ≠ '\n') (hcs : ∀ ds, cs ≠ d :: ds) (ds : List Char) : cs ++ tail ≠ d :: ds := by
  intro heq
  cases cs with
  | nil =>
    rw [List.nil_append] at heq
    exact hd (htail d (by rw [heq]; rfl))
  | cons e cs =>
    cases heq
    exact hcs cs rfl

/-! ### Single characters -/

theorem skipTrivia_in_line (p : Position) (c : Char) (cs : List Char) :
    skipTrivia .line p (c :: cs) =
      skipTrivia (if c = '\n' then .blank else .line) (p.after c) cs := rfl

theorem skipTrivia_in_block (h : ∀ ds, c = '*' → cs ≠ '/' :: ds) :
    skipTrivia (.block start) p (c :: cs) = skipTrivia (.block start) (p.after c) cs := by
  conv => lhs; unfold skipTrivia
  split
  case h_5 heq => cases heq; exact absurd rfl (h _ rfl)
  case h_6 hstart heq => cases hstart; cases heq; rfl
  all_goals contradiction

/-- What is no blank and starts no comment is left. -/
theorem skipTrivia_of_not_trivia (hblank : ¬ Text.isBlank c = true)
    (hline : ∀ ds, c = '/' → cs ≠ '/' :: ds) (hblock : ∀ ds, c = '/' → cs ≠ '*' :: ds) :
    skipTrivia .blank p (c :: cs) = .ok (p, c :: cs) := by
  unfold skipTrivia
  split
  case h_1 heq => cases heq; exact absurd rfl (hline _ rfl)
  case h_2 heq => cases heq; exact absurd rfl (hblock _ rfl)
  case h_3 heq => cases heq; exact if_neg hblank
  all_goals contradiction

/-! ### More characters -/

/-- The state, with a comment that starts at another place. -/
def Trivia.moved (place : Position) : Trivia → Trivia
  | .blank => .blank
  | .line => .line
  | .block _ => .block place

theorem moved_behind_line (place : Position) :
    (if c = '\n' then .blank else .line : Trivia).moved place =
      if c = '\n' then .blank else .line := by
  split <;> rfl

variable {tail : List Char}

/-- Without a token behind them, blanks and comments go on in the new line. -/
theorem skipTrivia_append_of_end (h : skipTrivia trivia p cs = .ok (q, []))
    (htail : StartsLine tail) (place r : Position) :
    ∃ r', skipTrivia (trivia.moved place) r (cs ++ tail) = skipTrivia .blank r' tail := by
  fun_induction skipTrivia trivia p cs generalizing place r with
  | case1 p cs ih | case2 p cs ih | case6 start p cs ih => exact ih h r _
  | case3 p c cs _ _ hblank ih =>
    rw [List.cons_append, Trivia.moved, Printing.skipTrivia_of_blank hblank]
    exact ih h place _
  | case4 => cases h
  | case5 p c cs ih =>
    rw [List.cons_append, Trivia.moved, skipTrivia_in_line, ← moved_behind_line place]
    exact ih h place _
  | case7 start p c cs hclosed ih =>
    rw [List.cons_append, Trivia.moved, skipTrivia_in_block fun ds hc =>
      htail.append_ne (by decide) (fun ds' hds => hclosed ds' hc hds) ds]
    exact ih h place _
  | case8 => cases h
  | case9 trivia p hblock =>
    cases h
    cases trivia with
    | blank => exact ⟨r, rfl⟩
    | line =>
      cases tail with
      | nil => exact ⟨r, rfl⟩
      | cons d tail =>
        cases htail d rfl
        exact ⟨r, (Printing.skipTrivia_of_blank (by decide)).symm⟩
    | block start => exact absurd rfl (hblock start)

/-- A token that follows is the next one whatever is added in a new line behind it. -/
theorem skipTrivia_append_of_token (h : skipTrivia trivia p cs = .ok (q, c :: rest))
    (htail : StartsLine tail) (place r : Position) :
    ∃ r', skipTrivia (trivia.moved place) r (cs ++ tail) = .ok (r', c :: (rest ++ tail)) := by
  fun_induction skipTrivia trivia p cs generalizing place r with
  | case1 p cs ih | case2 p cs ih | case6 start p cs ih => exact ih h r _
  | case3 p c cs _ _ hblank ih =>
    rw [List.cons_append, Trivia.moved, Printing.skipTrivia_of_blank hblank]
    exact ih h place _
  | case4 p c cs hline hblock hblank =>
    cases h
    refine ⟨r, skipTrivia_of_not_trivia hblank ?_ ?_⟩
    · exact fun ds hc => htail.append_ne (by decide) (fun ds' hds => hline ds' hc hds) ds
    · exact fun ds hc => htail.append_ne (by decide) (fun ds' hds => hblock ds' hc hds) ds
  | case5 p c cs ih =>
    rw [List.cons_append, Trivia.moved, skipTrivia_in_line, ← moved_behind_line place]
    exact ih h place _
  | case7 start p c cs hclosed ih =>
    rw [List.cons_append, Trivia.moved, skipTrivia_in_block fun ds hc =>
      htail.append_ne (by decide) (fun ds' hds => hclosed ds' hc hds) ds]
    exact ih h place _
  | case8 | case9 => cases h

end Gaps

end MediaNaming.Lexer
