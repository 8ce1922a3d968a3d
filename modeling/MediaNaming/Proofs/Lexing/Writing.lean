import MediaNaming.Proofs.Lexing.Gaps

/-!
# Scripts that are written token by token

Tokens with a gap between each two of them are cut into the same tokens again, whichever quotes the
texts stand in. So every text and every number can be written in a script.
-/

namespace MediaNaming.Lexer

open Printing

/-! ## Gaps are passed over -/

section Gaps

variable {atEnd : Bool} {gap comment rest : List Char} {start : Position}

theorem skipTrivia_of_line (p : Position) (cs : List Char) :
    skipTrivia .blank p ('/' :: '/' :: cs) = skipTrivia .line (p.advance ['/', '/']) cs := rfl

theorem skipTrivia_of_block (p : Position) (cs : List Char) :
    skipTrivia .blank p ('/' :: '*' :: cs) = skipTrivia (.block p) (p.advance ['/', '*']) cs := rfl

theorem skipTrivia_line (hcomment : '\n' ∉ comment) (p : Position) :
    skipTrivia .line p (comment ++ '\n' :: rest) =
      skipTrivia .blank (p.advance (comment ++ ['\n'])) rest := by
  induction comment generalizing p with
  | nil => rfl
  | cons c comment ih =>
    obtain ⟨hc, hcomment⟩ := List.ne_and_not_mem_of_not_mem_cons hcomment
    rw [List.cons_append, skipTrivia_in_line, if_neg (Ne.symm hc)]
    exact ih hcomment _

theorem skipTrivia_lastLine (hcomment : '\n' ∉ comment) (p : Position) :
    skipTrivia .line p comment = .ok (p.advance comment, []) := by
  induction comment generalizing p with
  | nil => rfl
  | cons c comment ih =>
    obtain ⟨hc, hcomment⟩ := List.ne_and_not_mem_of_not_mem_cons hcomment
    rw [skipTrivia_in_line, if_neg (Ne.symm hc)]
    exact ih hcomment _

theorem skipTrivia_block (hcomment : ¬ ['*', '/'] <:+: comment) (p : Position) :
    skipTrivia (.block start) p (comment ++ '*' :: '/' :: rest) =
      skipTrivia .blank (p.advance (comment ++ ['*', '/'])) rest := by
  induction comment generalizing p with
  | nil => rfl
  | cons c comment ih =>
    obtain ⟨hopens, hcomment⟩ := not_or.mp (mt List.infix_cons_iff.mpr hcomment)
    -- Neither the comment nor its end closes it after one character.
    have hgoesOn : ∀ ds, c = '*' → comment ++ '*' :: '/' :: rest ≠ '/' :: ds := by
      rintro ds rfl heq
      cases comment with
      | nil => cases heq
      | cons d comment =>
        cases heq
        exact hopens ⟨comment, rfl⟩
    rw [List.cons_append, skipTrivia_in_block hgoesOn]
    exact ih hcomment _

/-- A gap is passed over; the last one has nothing behind it. -/
theorem skipTrivia_of_gap (h : Gap atEnd gap) (hrest : atEnd = true → rest = []) (p : Position) :
    skipTrivia .blank p (gap ++ rest) = skipTrivia .blank (p.advance gap) rest := by
  induction h generalizing p with
  | nil => rfl
  | blank hblank _ ih =>
    rw [List.cons_append, skipTrivia_of_blank hblank]
    exact ih _
  | @line comment cs hcomment _ ih =>
    have htext : '/' :: '/' :: (comment ++ '\n' :: cs) ++ rest =
        '/' :: '/' :: (comment ++ '\n' :: (cs ++ rest)) := by simp
    have hplace : p.advance ('/' :: '/' :: (comment ++ '\n' :: cs)) =
        ((p.advance ['/', '/']).advance (comment ++ ['\n'])).advance cs := by
      simp [← Position.advance_append]
    rw [htext, hplace, skipTrivia_of_line, skipTrivia_line hcomment]
    exact ih _
  | lastLine hend hcomment =>
    rw [hrest hend, List.append_nil, skipTrivia_of_line, skipTrivia_lastLine hcomment]
    rfl
  | @block comment cs hcomment _ ih =>
    have htext : '/' :: '*' :: (comment ++ '*' :: '/' :: cs) ++ rest =
        '/' :: '*' :: (comment ++ '*' :: '/' :: (cs ++ rest)) := by simp
    have hplace : p.advance ('/' :: '*' :: (comment ++ '*' :: '/' :: cs)) =
        ((p.advance ['/', '*']).advance (comment ++ ['*', '/'])).advance cs := by
      simp [← Position.advance_append]
    rw [htext, hplace, skipTrivia_of_block, skipTrivia_block hcomment]
    exact ih _

theorem tokensFrom_of_gap (h : Gap false gap) (p : Position) :
    tokensFrom p (gap ++ rest) = tokensFrom (p.advance gap) rest :=
  tokensFrom_congr (skipTrivia_of_gap h (fun hend => by cases hend) p)

theorem tokensFrom_of_lastGap (h : Gap true gap) (p : Position) :
    tokensFrom p gap = .ok ⟨[], p.advance gap⟩ := by
  have hskip := skipTrivia_of_gap h (fun _ => rfl) p
  rw [List.append_nil] at hskip
  exact tokensFrom_of_end hskip

/-! ## Gaps separate -/

theorem startsToken_of_isWordChar {c : Char} (h : isWordChar c = true) : StartsToken c := by
  rw [isWordChar, Char.isAlphanum, Bool.or_eq_true, Bool.or_eq_true] at h
  rcases h with (halpha | hdigit) | hunderscore
  · exact startsToken_of_isWordStart (Bool.or_eq_true_iff.mpr (.inl halpha))
  · exact startsToken_of_isDigit hdigit
  · exact startsToken_of_isWordStart (Bool.or_eq_true_iff.mpr (.inr hunderscore))

theorem separates_of_blank {c : Char} (hblank : Text.isBlank c = true) :
    Separates (c :: rest) := by
  rintro d ⟨⟩
  constructor
  · refine Bool.eq_false_iff.mpr fun hword => ?_
    exact Bool.eq_false_iff.mp (startsToken_of_isWordChar hword).not_blank hblank
  · rintro rfl
    exact absurd hblank (by decide)

theorem separates_of_slash : Separates ('/' :: rest) := by
  rintro d ⟨⟩
  decide

/-- Neither blanks nor comments go on with a token. -/
theorem separates_of_gap (h : Gap atEnd gap) (hrest : gap = [] → Separates rest) :
    Separates (gap ++ rest) := by
  cases h with
  | nil => exact hrest rfl
  | blank hblank => exact separates_of_blank hblank
  | line | lastLine | block => exact separates_of_slash

end Gaps

/-! ## Spellings in either quote -/

/-- A token as it stands in a script, a text between two of the quotes. -/
def spellingIn (quote : Char) : TokenKind → List Char
  | .text value => quote :: (escaped quote value.toList ++ [quote])
  | k => spelling k

section Spellings

variable {quote : Char} {k : TokenKind} {rest : List Char}

theorem cutsOff_spellingIn (hquote : quote = '\'' ∨ quote = '"') (hk : isSpelt k = true)
    (hrest : Separates rest) : CutsOff k rest (spellingIn quote k ++ rest) := by
  cases k with
  | text value => simpa [spellingIn] using cutsOff_text hquote value
  | word name => exact cutsOff_spelling hk hrest
  | number value => exact cutsOff_spelling hk hrest
  | punctuation mark => exact cutsOff_spelling hk hrest

end Spellings

/-! ## Written tokens -/

/--
The characters are the spellings of the tokens, each text in a quote of its own choice, with a gap
between each two of them. There may be one at the end, too.
-/
inductive Writes : List TokenKind → List Char → Prop
  | nil {gap : List Char} (hgap : Gap true gap) : Writes [] gap
  | cons {k : TokenKind} {ks : List TokenKind} {quote : Char} {gap cs : List Char}
      (hk : isSpelt k = true) (hquote : quote = '\'' ∨ quote = '"') (hgap : Gap false gap)
      (hseparator : ks = [] ∨ gap ≠ []) :
      Writes ks cs → Writes (k :: ks) (spellingIn quote k ++ (gap ++ cs))

section Writes

variable {ks : List TokenKind} {cs : List Char}

/-- Written tokens are cut into the same tokens. -/
theorem Writes.tokensFrom (h : Writes ks cs) (p : Position) :
    Yields (tokensFrom p cs) fun list => list.tokens.map Token.kind = ks := by
  induction h generalizing p with
  | nil hgap => exact ⟨_, tokensFrom_of_lastGap hgap p, rfl⟩
  | @cons k ks quote gap cs hk hquote hgap hseparator hwrites ih =>
    have hseparates : Separates (gap ++ cs) := by
      refine separates_of_gap hgap fun hnil => ?_
      -- Only the last token has no gap behind it, and then the script ends.
      cases hseparator.resolve_right (not_not_intro hnil)
      cases hwrites with
      | nil hend =>
        rw [← List.append_nil cs]
        exact separates_of_gap hend fun _ _ hc => by cases hc
    refine tokensFrom_of_cutsOff (cutsOff_spellingIn hquote hk hseparates) (fun p => ?_) p
    rw [tokensFrom_of_gap hgap]
    exact ih _

theorem Writes.singleton {k : TokenKind} {quote : Char} (hk : isSpelt k = true)
    (hquote : quote = '\'' ∨ quote = '"') : Writes [k] (spellingIn quote k) := by
  have hwrites := Writes.cons hk hquote .nil (.inl rfl) (.nil .nil)
  rwa [List.append_nil, List.append_nil] at hwrites

/-- Spellings with a blank behind each are one way of writing. -/
theorem writes_spellings (hks : ∀ k ∈ ks, isSpelt k = true) : Writes ks (spellings ks) := by
  induction ks with
  | nil => exact .nil .nil
  | cons k ks ih =>
    obtain ⟨hk, hks⟩ := List.forall_mem_cons.mp hks
    have hblank : Gap false [' '] := .blank (by decide) .nil
    have hspelling : spelling k = spellingIn '\'' k := by cases k <;> rfl
    rw [spellings, List.flatMap_cons, List.append_assoc, hspelling]
    exact .cons hk (.inl rfl) hblank (.inr (List.cons_ne_nil _ _)) (ih hks)

end Writes

/--
A script in which tokens are written, behind a gap or none, is cut into these tokens and no others.
So there is a script for every text, in either quote, and for every number.
-/
theorem tokenize_of_writes :
    (∀ (ks : List TokenKind) (before cs : List Char), Gap false before → Writes ks cs →
      Yields (tokenize (String.ofList (before ++ cs))) fun list =>
        list.tokens.map Token.kind = ks) ∧
    (∀ (value : String) (quote : Char), quote = '\'' ∨ quote = '"' →
      Yields (tokenize (String.ofList (quote :: (escaped quote value.toList ++ [quote]))))
        fun list => list.tokens.map Token.kind = [.text value]) ∧
    ∀ value : Int64, Yields (tokenize (Text.int value.toInt)) fun list =>
      list.tokens.map Token.kind = [.number value] := by
  refine ⟨fun ks before cs hbefore hwrites => ?_, fun value quote hquote => ?_, fun value => ?_⟩
  · rw [tokenize, String.toList_ofList, tokensFrom_of_gap hbefore]
    exact hwrites.tokensFrom _
  · rw [tokenize, String.toList_ofList]
    exact (Writes.singleton (k := .text value) rfl hquote).tokensFrom _
  · rw [tokenize, Text.int, String.toList_ofList]
    exact (Writes.singleton (k := .number value) rfl (.inl rfl)).tokensFrom _

theorem tokenize_of_writes_in_both_quotes :
    let ks : List TokenKind := [.word "a", .punctuation .lessEqual, .number (-1),
      .text "it's \"\\ // /*\n", .text "'\"", .punctuation .bang, .punctuation .equal,
      .number Int64.minValue]
    let script := "\t a <=/* * / */-1// '\n\"it's \\\"\\\\ // /*\n\"\u3000'\\'\"'\t! ==\n" ++
      "-9223372036854775808// "
    (∃ before cs, script = String.ofList (before ++ cs) ∧ Gap false before ∧ Writes ks cs) ∧
    (Yields (tokenize script) fun list => list.tokens.map Token.kind = ks) ∧
    (Yields (tokenize "'\\\\\\''") fun list => list.tokens.map Token.kind = [.text "\\'"]) ∧
    Yields (tokenize "-9223372036854775808") fun list =>
      list.tokens.map Token.kind = [.number Int64.minValue] := by
  intro ks script
  have hblank (c : Char) (hc : Text.isBlank c = true := by decide) : Gap false [c] := .blank hc .nil
  have hbefore : Gap false ['\t', ' '] := .blank (by decide) (hblank ' ')
  have hblock : Gap false "/* * / */".toList :=
    @Gap.block false " * / ".toList [] (by decide) .nil
  have hline : Gap false "// '\n".toList := @Gap.line false " '".toList [] (by decide) .nil
  have hend : Gap true "// ".toList := @Gap.lastLine true [' '] rfl (by decide)
  obtain ⟨cs, hwrites, hscript⟩ : ∃ cs, Writes ks cs ∧
      script = String.ofList (['\t', ' '] ++ cs) := by
    refine ⟨_,
      .cons rfl (.inl rfl) (hblank ' ') (.inr (by decide)) <|
      .cons rfl (.inl rfl) hblock (.inr (by decide)) <|
      .cons rfl (.inl rfl) hline (.inr (by decide)) <|
      .cons rfl (.inr rfl) (hblank '\u3000') (.inr (by decide)) <|
      .cons rfl (.inl rfl) (hblank '\t') (.inr (by decide)) <|
      .cons rfl (.inl rfl) (hblank ' ') (.inr (by decide)) <|
      .cons rfl (.inl rfl) (hblank '\n') (.inr (by decide)) <|
      .cons rfl (.inl rfl) .nil (.inl rfl) (.nil hend), ?_⟩
    decide +kernel
  have htext : String.ofList ('\'' :: (escaped '\'' "\\'".toList ++ ['\''])) = "'\\\\\\''" := by
    decide +kernel
  have hnumber : Text.int Int64.minValue.toInt = "-9223372036854775808" := by decide +kernel
  obtain ⟨hreads, htexts, hnumbers⟩ := tokenize_of_writes
  have hscriptReads := hreads ks _ cs hbefore hwrites
  have htextReads := htexts "\\'" '\'' (.inl rfl)
  have hnumberReads := hnumbers Int64.minValue
  rw [← hscript] at hscriptReads
  rw [htext] at htextReads
  rw [hnumber] at hnumberReads
  exact ⟨⟨_, cs, hscript, hbefore, hwrites⟩, hscriptReads, htextReads, hnumberReads⟩

end MediaNaming.Lexer
