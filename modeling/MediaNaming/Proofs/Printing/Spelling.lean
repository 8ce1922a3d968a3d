import MediaNaming.Proofs.Grammar.Words
import MediaNaming.Proofs.Results
import MediaNaming.Proofs.Text.Splitting

/-!
# Tokens as text

Every token that can come out of a script has a spelling, and is cut off again from a text that
starts with it and goes on with something that cannot belong to it.
-/

namespace MediaNaming.Printing

open Lexer

/-! ## Quoted texts -/

/-- The character within quotes: a backslash stands before the quote and before another one. -/
def escapedChar (quote c : Char) : List Char :=
  if c = '\\' ∨ c = quote then ['\\', c] else [c]

def escaped (quote : Char) (cs : List Char) : List Char :=
  cs.flatMap (escapedChar quote)

section Quoted

variable {quote : Char} {start p q : Position} {cs rest : List Char}

theorem quotedText_quote (hquote : quote ≠ '\\') :
    quotedText quote start p (quote :: rest) = .ok ([], p.after quote, rest) := by
  rw [quotedText]
  · rw [if_pos rfl]
  · exact fun h _ => hquote h
  · exact fun _ _ h _ => hquote h

/-- A character that is escaped stands for itself. -/
theorem quotedText_escapedChar {c : Char} {value behind : List Char}
    (hquote : quote = '\'' ∨ quote = '"')
    (h : ∀ p, ∃ q, quotedText quote start p behind = .ok (value, q, rest)) :
    ∃ q, quotedText quote start p (escapedChar quote c ++ behind) = .ok (c :: value, q, rest) := by
  unfold escapedChar
  split
  · next hescape =>
    obtain ⟨q, heq⟩ := h (p.advance ['\\', c])
    -- A backslash and a quote are not among the characters that an escape turns into others.
    have hc : unescape c = [c] := by
      rcases hescape with rfl | rfl
      · rfl
      · rcases hquote with rfl | rfl <;> rfl
    refine ⟨q, ?_⟩
    show quotedText quote start p ('\\' :: c :: behind) = _
    rw [quotedText, heq, hc]
    rfl
  · next hescape =>
    obtain ⟨hbackslash, hplain⟩ := not_or.mp hescape
    obtain ⟨q, heq⟩ := h (p.after c)
    refine ⟨q, ?_⟩
    show quotedText quote start p (c :: behind) = _
    rw [quotedText]
    · rw [if_neg hplain, heq]
      rfl
    · exact fun h _ => hbackslash h
    · exact fun _ _ h _ => hbackslash h

/-- An escaped text is read up to the quote that closes it. -/
theorem quotedText_escaped (hquote : quote = '\'' ∨ quote = '"') (start p : Position)
    (cs rest : List Char) :
    ∃ q, quotedText quote start p (escaped quote cs ++ quote :: rest) = .ok (cs, q, rest) := by
  induction cs generalizing p with
  | nil =>
    have hbackslash : quote ≠ '\\' := by rcases hquote with rfl | rfl <;> decide
    exact ⟨p.after quote, quotedText_quote hbackslash⟩
  | cons c cs ih =>
    rw [escaped, List.flatMap_cons, List.append_assoc]
    exact quotedText_escapedChar hquote ih

end Quoted

/-! ## Spellings -/

/-- A token as it stands in a script. -/
def spelling : TokenKind → List Char
  | .word name => name.toList
  | .text value => '\'' :: (escaped '\'' value.toList ++ ['\''])
  | .number value => Text.intChars value.toInt
  | .punctuation mark => mark.spelling.toList

/-- Tokens as they stand in a script, a blank behind each. -/
def spellings (ks : List TokenKind) : List Char :=
  ks.flatMap fun k => spelling k ++ [' ']

/-- Whether a token can come out of a script: any but a word of which the characters make none. -/
def isSpelt : TokenKind → Bool
  | .word name => Grammar.isName name
  | _ => true

/-! ## Tokens are cut off again -/

/-- No character of the text can belong to a token before it. -/
def Separates (rest : List Char) : Prop :=
  ∀ c ∈ rest.head?, isWordChar c = false ∧ c ≠ '='

/-- Neither a blank nor the start of a comment. -/
structure StartsToken (c : Char) : Prop where
  not_blank : Text.isBlank c = false
  not_comment : c ≠ '/'

/-- A text that goes on with `rest` starts with the token. -/
def CutsOff (k : TokenKind) (rest cs : List Char) : Prop :=
  ∃ c behind, cs = c :: behind ∧ StartsToken c ∧
    ∀ p, ∃ q h, token p c behind = .ok ⟨(k, q), rest, h⟩

theorem skipTrivia_of_not_comment {c : Char} {cs : List Char} {p : Position} (h : c ≠ '/') :
    skipTrivia .blank p (c :: cs) =
      if Text.isBlank c then skipTrivia .blank (p.after c) cs else .ok (p, c :: cs) := by
  -- Only the left side is opened; the right side speaks of the same function.
  conv => lhs; unfold skipTrivia
  split
  case h_1 heq => cases heq; exact absurd rfl h
  case h_2 heq => cases heq; exact absurd rfl h
  case h_3 heq => cases heq; rfl
  all_goals contradiction

theorem skipTrivia_of_blank {c : Char} {cs : List Char} {p : Position}
    (h : Text.isBlank c = true) :
    skipTrivia .blank p (c :: cs) = skipTrivia .blank (p.after c) cs := by
  have hslash : c ≠ '/' := by
    rintro rfl
    exact absurd h (by decide)
  rw [skipTrivia_of_not_comment hslash, if_pos h]

theorem skipTrivia_of_startsToken {c : Char} {cs : List Char} {p : Position} (h : StartsToken c) :
    skipTrivia .blank p (c :: cs) = .ok (p, c :: cs) := by
  rw [skipTrivia_of_not_comment h.not_comment, h.not_blank, if_neg Bool.false_ne_true]

/-! ### The characters that words and numbers start with -/

section Characters

variable {c : Char}

theorem toNat_of_isWordStart (h : isWordStart c = true) : 65 ≤ c.toNat ∧ c.toNat ≤ 122 := by
  unfold isWordStart Char.isAlpha Char.isUpper Char.isLower at h
  simp only [Bool.or_eq_true, Bool.and_eq_true, decide_eq_true_eq, beq_iff_eq, ge_iff_le,
    UInt32.le_iff_toNat_le] at h
  rcases h with (⟨hleast, hmost⟩ | ⟨hleast, hmost⟩) | rfl
  · exact ⟨hleast, Nat.le_trans hmost (by decide)⟩
  · exact ⟨Nat.le_trans (by decide) hleast, hmost⟩
  · decide

theorem startsToken_of_toNat (h : 48 ≤ c.toNat ∧ c.toNat ≤ 122) : StartsToken c where
  not_blank := Text.isBlank_of_toNat h
  not_comment := by
    rintro rfl
    exact absurd h (by decide)

theorem startsToken_of_isDigit (h : c.isDigit = true) : StartsToken c := by
  have hrange := Text.toNat_of_isDigit h
  exact startsToken_of_toNat ⟨hrange.1, Nat.le_trans hrange.2 (by decide)⟩

theorem startsToken_of_isWordStart (h : isWordStart c = true) : StartsToken c := by
  have hrange := toNat_of_isWordStart h
  exact startsToken_of_toNat ⟨Nat.le_trans (by decide) hrange.1, hrange.2⟩

theorem isDigit_of_isWordStart (h : isWordStart c = true) : c.isDigit = false := by
  cases hdigit : c.isDigit with
  | false => rfl
  | true =>
    have hstart := toNat_of_isWordStart h
    have hrange := Text.toNat_of_isDigit hdigit
    omega

theorem isWordChar_of_isDigit (h : c.isDigit = true) : isWordChar c = true := by
  rw [isWordChar, Char.isAlphanum, h, Bool.or_true, Bool.true_or]

end Characters

/-! ### Numbers read back -/

theorem numberOf_intChars (value : Int64) (q : Position) :
    numberOf (Text.intChars value.toInt) q = .ok (.number value) := by
  rw [numberOf, Text.readInt?_intChars, Option.bind_some, Text.toInt64?_toInt]

/-! ### Each kind of token -/

theorem length_lt_cons_append (c : Char) (cs rest : List Char) :
    rest.length < (c :: (cs ++ rest)).length := by
  rw [List.length_cons, List.length_append]
  omega

section Kinds

variable {rest : List Char}

theorem token_of_isWordStart {c : Char} {cs : List Char} {p : Position}
    (h : isWordStart c = true) :
    token p c cs = .ok (word p c cs (isWordChar_of_isWordStart h)) := by
  unfold token
  split
  -- All cases but the last are about single characters, none of which starts a word.
  case h_17 => rw [dif_neg (by simp [isDigit_of_isWordStart h]), dif_pos h]
  all_goals exact absurd h (by decide)

theorem token_of_isDigit {c : Char} {cs : List Char} {p : Position} (h : c.isDigit = true) :
    token p c cs = number p c cs h := by
  unfold token
  split
  case h_17 => rw [dif_pos h]
  all_goals exact absurd h (by decide)

theorem cutsOff_word {name : String} (hname : Grammar.isName name = true)
    (hrest : Separates rest) : CutsOff (.word name) rest (spelling (.word name) ++ rest) := by
  unfold Grammar.isName at hname
  rw [Bool.and_eq_true, List.all_eq_true] at hname
  obtain ⟨hhead, hall⟩ := hname
  have hname : name = String.ofList name.toList := String.ofList_toList.symm
  rw [spelling]
  -- From here on the name is what its characters make.
  generalize name.toList = cs at *
  subst hname
  cases cs with
  | nil => cases hhead
  | cons c cs =>
    have hstart : isWordStart c = true := hhead
    have htake := Text.takeWhile_append_of_all hall fun c hc => (hrest c hc).1
    have hdrop := Text.dropWhile_append_of_all hall fun c hc => (hrest c hc).1
    refine ⟨c, cs ++ rest, rfl, startsToken_of_isWordStart hstart, fun p => ?_⟩
    refine ⟨p.advance (c :: cs), length_lt_cons_append _ _ _, ?_⟩
    rw [token_of_isWordStart hstart, word]
    simp only [← List.cons_append, htake, hdrop]

theorem text_of_quotedText {quote : Char} {p q : Position} {cs value : List Char}
    (h : quotedText quote p (p.after quote) cs = .ok (value, q, rest)) :
    ∃ h, text p quote cs = .ok ⟨(.text (String.ofList value), q), rest, h⟩ := by
  refine ⟨Nat.lt_succ_of_le (length_of_quotedText h), ?_⟩
  unfold text
  split
  · next heq' =>
    rw [h] at heq'
    cases heq'
    rfl
  · next heq' =>
    rw [h] at heq'
    cases heq'

theorem cutsOff_text {quote : Char} (hquote : quote = '\'' ∨ quote = '"') (value : String) :
    CutsOff (.text value) rest (quote :: (escaped quote value.toList ++ quote :: rest)) := by
  have hstarts : StartsToken quote := by
    rcases hquote with rfl | rfl <;> exact ⟨by decide, by decide⟩
  have htoken (p : Position) (cs : List Char) : token p quote cs = text p quote cs := by
    rcases hquote with rfl | rfl <;> rfl
  refine ⟨quote, _, rfl, hstarts, fun p => ?_⟩
  obtain ⟨q, hread⟩ := quotedText_escaped hquote p (p.after quote) value.toList rest
  have htext := text_of_quotedText hread
  rw [String.ofList_toList, ← htoken] at htext
  exact ⟨q, htext⟩

theorem cutsOff_number (value : Int64) (hrest : Separates rest) :
    CutsOff (.number value) rest (spelling (.number value) ++ rest) := by
  have hall : ∀ c ∈ Text.natChars value.toInt.natAbs, c.isDigit = true :=
    fun _ => Text.isDigit_of_mem_natChars
  have hstop : ∀ c ∈ rest.head?, c.isDigit = false := fun c hc => by
    cases hdigit : c.isDigit with
    | false => rfl
    | true =>
      have hword := (hrest c hc).1
      rw [isWordChar_of_isDigit hdigit] at hword
      cases hword
  have htake := Text.takeWhile_append_of_all hall hstop
  have hdrop := Text.dropWhile_append_of_all hall hstop
  have hnumber := numberOf_intChars value
  rw [spelling]
  unfold Text.intChars Text.signChars at *
  have hne := Text.natChars_ne_nil value.toInt.natAbs
  generalize Text.natChars value.toInt.natAbs = digits at *
  obtain ⟨d, digits, rfl⟩ := List.exists_cons_of_ne_nil hne
  have hd : d.isDigit = true := hall d List.mem_cons_self
  -- A minus sign and a digit lead to different readers, which read the same digits.
  by_cases hneg : value.toInt < 0
  · rw [if_pos hneg] at *
    refine ⟨'-', d :: digits ++ rest, rfl, ⟨by decide, by decide⟩, fun p => ?_⟩
    refine ⟨p.advance ('-' :: d :: digits), length_lt_cons_append _ _ _, ?_⟩
    show negative p (d :: (digits ++ rest)) = _
    rw [negative, dif_pos hd]
    simp only [← List.cons_append, htake, hdrop]
    have hkind : numberOf ('-' :: d :: digits) (p.advance ('-' :: d :: digits)) = _ := hnumber _
    rw [hkind]
    rfl
  · rw [if_neg hneg] at *
    refine ⟨d, digits ++ rest, rfl, startsToken_of_isDigit hd, fun p => ?_⟩
    refine ⟨p.advance (d :: digits), length_lt_cons_append _ _ _, ?_⟩
    rw [token_of_isDigit hd, number]
    simp only [← List.cons_append, htake, hdrop]
    have hkind : numberOf (d :: digits) (p.advance (d :: digits)) = _ := hnumber _
    rw [hkind]
    rfl

/-- A mark that an equals sign could prolong ends where none follows. -/
theorem token_beforeEqual {short long : Punctuation} {c : Char} (hrest : Separates rest)
    (htoken : ∀ p, token p c rest = .ok (beforeEqual short long p c rest)) (p : Position) :
    ∃ q h, token p c rest = .ok ⟨(.punctuation short, q), rest, h⟩ := by
  refine ⟨p.after c, Nat.lt_succ_self _, ?_⟩
  rw [htoken]
  unfold beforeEqual
  split
  · exact absurd rfl (hrest '=' rfl).2
  · rfl

theorem cutsOff_mark {k : TokenKind} (c : Char) (behind : List Char)
    (htoken : ∀ p, ∃ q h, token p c behind = .ok ⟨(k, q), rest, h⟩)
    (hstarts : StartsToken c := by exact ⟨by decide, by decide⟩) :
    CutsOff k rest (c :: behind) :=
  ⟨c, behind, rfl, hstarts, htoken⟩

theorem cutsOff_punctuation (mark : Punctuation) (hrest : Separates rest) :
    CutsOff (.punctuation mark) rest (spelling (.punctuation mark) ++ rest) := by
  cases mark with
  | openParen => exact cutsOff_mark '(' rest fun _ => ⟨_, _, rfl⟩
  | closeParen => exact cutsOff_mark ')' rest fun _ => ⟨_, _, rfl⟩
  | openBrace => exact cutsOff_mark '\x7b' rest fun _ => ⟨_, _, rfl⟩
  | closeBrace => exact cutsOff_mark '\x7d' rest fun _ => ⟨_, _, rfl⟩
  | comma => exact cutsOff_mark ',' rest fun _ => ⟨_, _, rfl⟩
  | semicolon => exact cutsOff_mark ';' rest fun _ => ⟨_, _, rfl⟩
  | plus => exact cutsOff_mark '+' rest fun _ => ⟨_, _, rfl⟩
  | equal => exact cutsOff_mark '=' ('=' :: rest) fun _ => ⟨_, _, rfl⟩
  | notEqual => exact cutsOff_mark '!' ('=' :: rest) fun _ => ⟨_, _, rfl⟩
  | less => exact cutsOff_mark '<' rest (token_beforeEqual hrest fun _ => rfl)
  | lessEqual => exact cutsOff_mark '<' ('=' :: rest) fun _ => ⟨_, _, rfl⟩
  | greater => exact cutsOff_mark '>' rest (token_beforeEqual hrest fun _ => rfl)
  | greaterEqual => exact cutsOff_mark '>' ('=' :: rest) fun _ => ⟨_, _, rfl⟩
  | bang => exact cutsOff_mark '!' rest (token_beforeEqual hrest fun _ => rfl)
  | and => exact cutsOff_mark '&' ('&' :: rest) fun _ => ⟨_, _, rfl⟩
  | or => exact cutsOff_mark '|' ('|' :: rest) fun _ => ⟨_, _, rfl⟩

end Kinds

/-- A token that a separated text follows is cut off from it. -/
theorem cutsOff_spelling {k : TokenKind} {rest : List Char} (hk : isSpelt k = true)
    (hrest : Separates rest) : CutsOff k rest (spelling k ++ rest) := by
  cases k with
  | word name => exact cutsOff_word hk hrest
  | text value => simpa [spelling] using cutsOff_text (.inl rfl) value
  | number value => exact cutsOff_number value hrest
  | punctuation mark => exact cutsOff_punctuation mark hrest

/-! ## Rows of tokens -/

theorem tokensFrom_of_end {p q : Position} {cs : List Char}
    (hskip : skipTrivia .blank p cs = .ok (q, [])) : tokensFrom p cs = .ok ⟨[], q⟩ := by
  rw [tokensFrom]
  split <;> rename_i heq <;> rw [hskip] at heq <;> cases heq
  rfl

theorem tokensFrom_of_token {p q : Position} {c : Char} {cs rest : List Char}
    {taken : Taken Lexeme (c :: rest)} (hskip : skipTrivia .blank p cs = .ok (q, c :: rest))
    (htoken : token q c rest = .ok taken) :
    tokensFrom p cs = (do
      let more ← tokensFrom taken.value.2 taken.rest
      return ⟨⟨taken.value.1, q⟩ :: more.tokens, more.stop⟩) := by
  rw [tokensFrom]
  split <;> rename_i heq <;> rw [hskip] at heq <;> cases heq
  rw [htoken, ok_bind]

theorem tokensFrom_of_cutsOff {k : TokenKind} {rest cs : List Char} {ks : List TokenKind}
    (h : CutsOff k rest cs) (hrest : ∀ p, ∃ list, tokensFrom p rest = .ok list ∧
      list.tokens.map Token.kind = ks) (p : Position) :
    ∃ list, tokensFrom p cs = .ok list ∧ list.tokens.map Token.kind = k :: ks := by
  obtain ⟨c, behind, rfl, hstarts, htoken⟩ := h
  obtain ⟨q, hlt, heq⟩ := htoken p
  obtain ⟨list, hlist, hkinds⟩ := hrest q
  refine ⟨⟨⟨k, p⟩ :: list.tokens, list.stop⟩, ?_, by rw [List.map_cons, hkinds]⟩
  rw [tokensFrom_of_token (skipTrivia_of_startsToken hstarts) heq]
  dsimp only
  rw [hlist]
  rfl

/-- The tokens of a text depend only on what is left behind blanks and comments. -/
theorem tokensFrom_congr {p q : Position} {cs ds : List Char}
    (h : skipTrivia .blank p cs = skipTrivia .blank q ds) :
    tokensFrom p cs = tokensFrom q ds := by
  rw [tokensFrom, tokensFrom]
  split <;> rename_i hcs <;> split <;> rename_i hds <;> rw [h, hds] at hcs <;> cases hcs <;> rfl

theorem tokensFrom_of_blank {c : Char} (h : Text.isBlank c = true) (cs : List Char)
    (p : Position) : tokensFrom p (c :: cs) = tokensFrom (p.after c) cs :=
  tokensFrom_congr (skipTrivia_of_blank h)

end MediaNaming.Printing
