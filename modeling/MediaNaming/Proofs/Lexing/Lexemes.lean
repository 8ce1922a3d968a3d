import MediaNaming.Proofs.Printing.Spelling

/-!
# Lexemes

Which characters are a lexeme of which token, and what every reader of a single token does: it
takes a lexeme of the token from the front, keeps track of the place, and takes the same whatever
stands behind a character that separates.
-/

namespace MediaNaming.Lexer

/-! ## Lexemes -/

/-- What stands between the quotes stands for the value: escapes are resolved. -/
inductive Unescapes (quote : Char) : List Char → List Char → Prop
  | nil : Unescapes quote [] []
  | plain {c : Char} {body value : List Char} (hquote : c ≠ quote) (hbackslash : c ≠ '\\') :
      Unescapes quote body value → Unescapes quote (c :: body) (c :: value)
  | escape (e : Char) {body value : List Char} :
      Unescapes quote body value → Unescapes quote ('\\' :: e :: body) (unescape e ++ value)

/-- The characters are a lexeme of the token. -/
inductive Denotes : List Char → TokenKind → Prop
  | word {name : String} (hname : Grammar.isName name = true) : Denotes name.toList (.word name)
  | text {quote : Char} {body value : List Char} (hquote : quote = '\'' ∨ quote = '"') :
      Unescapes quote body value →
      Denotes (quote :: (body ++ [quote])) (.text (String.ofList value))
  | number {digits : List Char} {value : Int64} (hread : Text.readInt? digits = some value.toInt) :
      Denotes digits (.number value)
  | punctuation (mark : Punctuation) : Denotes mark.spelling.toList (.punctuation mark)

/-! ## Readers -/

/-- What a reader makes of the characters behind `c`, with which its token starts. -/
structure Cuts (c : Char)
    (read : Position → (cs : List Char) → Except SyntaxError (Taken Lexeme (c :: cs))) : Prop where
  /-- It takes a lexeme from the front and ends behind it. -/
  denotes : ∀ p cs taken, read p cs = .ok taken →
    ∃ used, c :: cs = used ++ taken.rest ∧ Denotes used taken.value.1 ∧
      taken.value.2 = p.advance used
  /-- It fails at a place that it has got to. -/
  fails : ∀ p cs error, read p cs = .error error →
    ∃ used, used <+: c :: cs ∧ error.position = p.advance used
  /-- It takes the same anywhere, and leaves what is added behind if that separates. -/
  appends : ∀ p q cs taken tail, Printing.Separates tail → read p cs = .ok taken →
    ∃ more, read q (cs ++ tail) = .ok more ∧ more.value.1 = taken.value.1 ∧
      more.rest = taken.rest ++ tail

section Readers

variable {c : Char}

/-! ### Punctuation -/

theorem cuts_single (mark : Punctuation) (hmark : mark.spelling.toList = [c]) :
    Cuts c fun p cs => .ok (single mark p c cs) where
  denotes p cs taken h := by
    cases h
    exact ⟨[c], rfl, hmark ▸ .punctuation mark, rfl⟩
  fails p cs error h := by cases h
  appends p q cs taken tail _ h := by
    cases h
    exact ⟨_, rfl, rfl, rfl⟩

theorem cuts_doubled (mark : Punctuation) (hmark : mark.spelling.toList = [c, c]) :
    Cuts c fun p => doubled mark p c where
  denotes p cs taken h := by
    unfold doubled at h
    split at h
    · split at h
      · next hd =>
        cases h
        exact ⟨[c, c], by rw [hd]; rfl, hmark ▸ .punctuation mark, by rw [hd]⟩
      · cases h
    · cases h
  fails p cs error h := by
    refine ⟨[], List.nil_prefix, ?_⟩
    unfold doubled at h
    split at h
    · split at h <;> cases h
      rfl
    · cases h
      rfl
  appends p q cs taken tail _ h := by
    cases cs with
    | nil => cases h
    | cons d cs =>
      unfold doubled at h
      dsimp only at h
      split at h
      · next hd =>
        cases h
        rw [List.cons_append, doubled, if_pos hd]
        exact ⟨_, rfl, rfl, rfl⟩
      · cases h

theorem beforeEqual_of_ne {short long : Punctuation} {p : Position} {cs : List Char}
    (h : ∀ d ∈ cs.head?, d ≠ '=') : beforeEqual short long p c cs = single short p c cs := by
  unfold beforeEqual
  split
  · exact absurd rfl (h '=' rfl)
  · rfl

theorem cuts_beforeEqual (short long : Punctuation) (hshort : short.spelling.toList = [c])
    (hlong : long.spelling.toList = [c, '=']) :
    Cuts c fun p cs => .ok (beforeEqual short long p c cs) where
  denotes p cs taken h := by
    cases h
    unfold beforeEqual
    split
    · exact ⟨[c, '='], rfl, hlong ▸ .punctuation long, rfl⟩
    · exact ⟨[c], rfl, hshort ▸ .punctuation short, rfl⟩
  fails p cs error h := by cases h
  appends p q cs taken tail htail h := by
    cases h
    refine ⟨_, rfl, ?_⟩
    cases cs with
    | nil =>
      have hne : ∀ d ∈ tail.head?, d ≠ '=' := fun d hd => (htail d hd).2
      rw [List.nil_append, beforeEqual_of_ne hne]
      exact ⟨rfl, rfl⟩
    | cons d cs =>
      by_cases hd : d = '='
      · subst hd
        exact ⟨rfl, rfl⟩
      · have hne (ds : List Char) : ∀ e ∈ (d :: ds).head?, e ≠ '=' := by
          rintro e ⟨⟩
          exact hd
        rw [List.cons_append, beforeEqual_of_ne (hne _), beforeEqual_of_ne (hne _)]
        exact ⟨rfl, rfl⟩

/-! ### Quoted texts -/

section Quoted

variable {quote : Char} {start p q : Position} {cs value rest : List Char}

/-- What is neither a backslash at the end nor an escape does not start with a backslash. -/
theorem ne_backslash {cs : List Char} (hlast : c = '\\' → cs = [] → False)
    (hescape : ∀ e behind, c = '\\' → cs = e :: behind → False) : c ≠ '\\' := by
  intro hc
  cases cs with
  | nil => exact hlast hc rfl
  | cons e cs => exact hescape e cs hc rfl

theorem unescapes_of_quotedText (h : quotedText quote start p cs = .ok (value, q, rest)) :
    ∃ body, cs = body ++ quote :: rest ∧ Unescapes quote body value ∧
      q = p.advance (body ++ [quote]) := by
  fun_induction quotedText quote start p cs generalizing value q rest with
  | case1 => cases h
  | case2 p e cs ih =>
    obtain ⟨⟨value, q, rest⟩, hmore, hreturn⟩ := bind_eq_ok_iff.mp h
    cases hreturn
    obtain ⟨body, rfl, hbody, rfl⟩ := ih hmore
    exact ⟨'\\' :: e :: body, rfl, .escape e hbody, rfl⟩
  | case3 p cs =>
    cases h
    exact ⟨[], rfl, .nil, rfl⟩
  | case4 p c cs hlast hescape hquote ih =>
    obtain ⟨⟨value, q, rest⟩, hmore, hreturn⟩ := bind_eq_ok_iff.mp h
    cases hreturn
    obtain ⟨body, rfl, hbody, rfl⟩ := ih hmore
    exact ⟨c :: body, rfl, .plain hquote (ne_backslash hlast hescape) hbody, rfl⟩
  | case5 => cases h

theorem place_of_quotedText {error : SyntaxError} (h : quotedText quote start p cs = .error error) :
    error.position = start ∨ ∃ used, used <+: cs ∧ error.position = p.advance used := by
  fun_induction quotedText quote start p cs with
  | case1 p =>
    cases h
    exact .inr ⟨['\\'], List.prefix_refl _, rfl⟩
  | case2 p e cs ih =>
    rcases bind_eq_error_iff.mp h with h | ⟨found, -, h⟩
    · rcases ih h with hstart | ⟨used, hused, hplace⟩
      · exact .inl hstart
      · exact .inr ⟨'\\' :: e :: used, by simpa using hused, hplace⟩
    · cases h
  | case3 => cases h
  | case4 p c cs _ _ _ ih =>
    rcases bind_eq_error_iff.mp h with h | ⟨found, -, h⟩
    · rcases ih h with hstart | ⟨used, hused, hplace⟩
      · exact .inl hstart
      · exact .inr ⟨c :: used, by simpa using hused, hplace⟩
    · cases h
  | case5 =>
    cases h
    exact .inl rfl

/-- A text ends with its quote, so what is added behind is left. -/
theorem quotedText_append (h : quotedText quote start p cs = .ok (value, q, rest))
    (tail : List Char) (start' p' : Position) :
    ∃ q', quotedText quote start' p' (cs ++ tail) = .ok (value, q', rest ++ tail) := by
  fun_induction quotedText quote start p cs generalizing value q rest p' with
  | case1 => cases h
  | case2 p e cs ih =>
    obtain ⟨found, hmore, hreturn⟩ := bind_eq_ok_iff.mp h
    cases hreturn
    obtain ⟨q', hread⟩ := ih hmore (p'.advance ['\\', e])
    exact ⟨q', bind_eq_ok_iff.mpr ⟨_, hread, rfl⟩⟩
  | case3 p cs hlast hescape =>
    cases h
    exact ⟨_, Printing.quotedText_quote (ne_backslash hlast hescape)⟩
  | case4 p c cs hlast hescape hquote ih =>
    obtain ⟨found, hmore, hreturn⟩ := bind_eq_ok_iff.mp h
    cases hreturn
    have hbackslash := ne_backslash hlast hescape
    obtain ⟨q', hread⟩ := ih hmore (p'.after c)
    refine ⟨q', ?_⟩
    rw [List.cons_append, quotedText, if_neg hquote, hread]
    · rfl
    · exact fun heq _ => hbackslash heq
    · exact fun _ _ heq _ => hbackslash heq
  | case5 => cases h

theorem cuts_text (hquote : c = '\'' ∨ c = '"') : Cuts c fun p => text p c where
  denotes p cs taken h := by
    unfold text at h
    split at h
    · next hread =>
      cases h
      obtain ⟨body, rfl, hbody, rfl⟩ := unescapes_of_quotedText hread
      exact ⟨c :: (body ++ [c]), by simp, .text hquote hbody, rfl⟩
    · cases h
  fails p cs error h := by
    unfold text at h
    split at h
    · cases h
    · next hread =>
      cases h
      rcases place_of_quotedText hread with hplace | ⟨used, hused, hplace⟩
      · exact ⟨[], List.nil_prefix, hplace⟩
      · exact ⟨c :: used, by simpa using hused, hplace⟩
  appends p q cs taken tail _ h := by
    unfold text at h
    split at h
    · next hread =>
      cases h
      obtain ⟨_, hmore⟩ := quotedText_append hread tail q (q.after c)
      obtain ⟨hlt, heq⟩ := Printing.text_of_quotedText hmore
      exact ⟨_, heq, rfl, rfl⟩
    · cases h

end Quoted

/-! ### Numbers and words -/

theorem denotes_of_numberOf {digits : List Char} {q : Position} {kind : TokenKind}
    (h : numberOf digits q = .ok kind) : Denotes digits kind := by
  unfold numberOf at h
  split at h
  · next value hvalue =>
    cases h
    obtain ⟨n, hread, hn⟩ := Option.bind_eq_some_iff.mp hvalue
    refine .number ?_
    rw [hread, Text.toInt_of_toInt64? hn]
  · cases h

theorem place_of_numberOf {digits : List Char} {q : Position} {error : SyntaxError}
    (h : numberOf digits q = .error error) : error.position = q := by
  unfold numberOf at h
  split at h <;> cases h
  rfl

/-- Where a number ends matters only if it has none. -/
theorem numberOf_eq {digits : List Char} {q : Position} {kind : TokenKind}
    (h : numberOf digits q = .ok kind) (p : Position) : numberOf digits p = .ok kind := by
  unfold numberOf at h ⊢
  split at h
  · exact h
  · cases h

theorem separates_digit {tail : List Char} (htail : Printing.Separates tail) :
    ∀ d ∈ tail.head?, d.isDigit = false := by
  refine fun d hd => Bool.eq_false_iff.mpr fun hdigit => ?_
  exact Bool.eq_false_iff.mp (htail d hd).1 (Printing.isWordChar_of_isDigit hdigit)

theorem cuts_number (hc : c.isDigit = true) : Cuts c fun p cs => number p c cs hc where
  denotes p cs taken h := by
    obtain ⟨kind, hkind, hreturn⟩ := bind_eq_ok_iff.mp h
    cases hreturn
    exact ⟨_, List.takeWhile_append_dropWhile.symm, denotes_of_numberOf hkind, rfl⟩
  fails p cs error h := by
    rcases bind_eq_error_iff.mp h with h | ⟨kind, -, h⟩
    · exact ⟨_, List.takeWhile_prefix _, place_of_numberOf h⟩
    · cases h
  appends p q cs taken tail htail h := by
    have hstop := separates_digit htail
    obtain ⟨kind, hkind, hreturn⟩ := bind_eq_ok_iff.mp h
    cases hreturn
    rw [← Text.takeWhile_append_of_stop hstop] at hkind
    exact ⟨_, bind_eq_ok_iff.mpr ⟨kind, numberOf_eq hkind _, rfl⟩, rfl,
      @Text.dropWhile_append_of_stop _ (c :: cs) tail hstop⟩

theorem cuts_negative : Cuts '-' negative where
  denotes p cs taken h := by
    unfold negative at h
    split at h
    · split at h
      · obtain ⟨kind, hkind, hreturn⟩ := bind_eq_ok_iff.mp h
        cases hreturn
        refine ⟨_, ?_, denotes_of_numberOf hkind, rfl⟩
        rw [List.cons_append, List.takeWhile_append_dropWhile]
      · cases h
    · cases h
  fails p cs error h := by
    unfold negative at h
    split at h
    · split at h
      · rcases bind_eq_error_iff.mp h with h | ⟨kind, -, h⟩
        · refine ⟨_, ?_, place_of_numberOf h⟩
          exact (List.prefix_cons_inj _).mpr (List.takeWhile_prefix _)
        · cases h
      · cases h
        exact ⟨[], List.nil_prefix, rfl⟩
    · cases h
      exact ⟨[], List.nil_prefix, rfl⟩
  appends p q cs taken tail htail h := by
    have hstop := separates_digit htail
    cases cs with
    | nil => cases h
    | cons d cs =>
      unfold negative at h
      dsimp only at h
      split at h
      · next hd =>
        obtain ⟨kind, hkind, hreturn⟩ := bind_eq_ok_iff.mp h
        cases hreturn
        rw [← Text.takeWhile_append_of_stop hstop] at hkind
        rw [List.cons_append, negative, dif_pos hd]
        exact ⟨_, bind_eq_ok_iff.mpr ⟨kind, numberOf_eq hkind _, rfl⟩, rfl,
          @Text.dropWhile_append_of_stop _ (d :: cs) tail hstop⟩
      · cases h

theorem cuts_word (hstart : isWordStart c = true) :
    Cuts c fun p cs => .ok (word p c cs (isWordChar_of_isWordStart hstart)) where
  denotes p cs taken h := by
    cases h
    refine ⟨_, List.takeWhile_append_dropWhile.symm, ?_, rfl⟩
    have hchar := isWordChar_of_isWordStart hstart
    have hname : Grammar.isName (String.ofList ((c :: cs).takeWhile isWordChar)) = true := by
      rw [Grammar.isName, String.toList_ofList, Bool.and_eq_true]
      refine ⟨?_, List.all_takeWhile⟩
      rw [List.takeWhile_cons_of_pos hchar]
      exact hstart
    have hdenotes := Denotes.word hname
    rwa [String.toList_ofList] at hdenotes
  fails p cs error h := by cases h
  appends p q cs taken tail htail h := by
    cases h
    have hstop : ∀ d ∈ tail.head?, isWordChar d = false := fun d hd => (htail d hd).1
    refine ⟨_, rfl, ?_⟩
    simp only [word, ← List.cons_append, Text.takeWhile_append_of_stop hstop,
      Text.dropWhile_append_of_stop hstop, and_self]

/-! ### All tokens -/

/-- The characters that start a token and no word or number: marks, quotes and the minus sign. -/
def signs : List Char :=
  ['(', ')', '\x7b', '\x7d', ',', ';', '+', '=', '&', '|', '!', '<', '>', '\'', '"', '-']

theorem cuts_sign (hc : c ∈ signs) : Cuts c fun p => token p c := by
  simp only [signs, List.mem_cons, List.not_mem_nil, or_false] at hc
  rcases hc with rfl | rfl | rfl | rfl | rfl | rfl | rfl | rfl | rfl | rfl | rfl | rfl | rfl | rfl |
    rfl | rfl
  · exact cuts_single .openParen rfl
  · exact cuts_single .closeParen rfl
  · exact cuts_single .openBrace rfl
  · exact cuts_single .closeBrace rfl
  · exact cuts_single .comma rfl
  · exact cuts_single .semicolon rfl
  · exact cuts_single .plus rfl
  · exact cuts_doubled .equal rfl
  · exact cuts_doubled .and rfl
  · exact cuts_doubled .or rfl
  · exact cuts_beforeEqual .bang .notEqual rfl rfl
  · exact cuts_beforeEqual .less .lessEqual rfl rfl
  · exact cuts_beforeEqual .greater .greaterEqual rfl rfl
  · exact cuts_text (.inl rfl)
  · exact cuts_text (.inr rfl)
  · exact cuts_negative

theorem cuts_unexpected : Cuts c fun p _ => .error ⟨.unexpectedCharacter c, p⟩ where
  denotes p cs taken h := by cases h
  fails p cs error h := by
    cases h
    exact ⟨[], List.nil_prefix, rfl⟩
  appends p q cs taken tail _ h := by cases h

theorem cuts_token (c : Char) : Cuts c fun p => token p c := by
  by_cases hdigit : c.isDigit = true
  · have heq : (fun p => token p c) = fun p cs => number p c cs hdigit :=
      funext fun _ => funext fun _ => Printing.token_of_isDigit hdigit
    rw [heq]
    exact cuts_number hdigit
  by_cases hstart : isWordStart c = true
  · have heq : (fun p => token p c) =
        fun p cs => .ok (word p c cs (isWordChar_of_isWordStart hstart)) :=
      funext fun _ => funext fun _ => Printing.token_of_isWordStart hstart
    rw [heq]
    exact cuts_word hstart
  by_cases hsign : c ∈ signs
  · exact cuts_sign hsign
  · have heq : (fun p => token p c) = fun p _ => .error ⟨.unexpectedCharacter c, p⟩ := by
      funext p cs
      unfold token
      split
      case h_17 => rw [dif_neg hdigit, dif_neg hstart]
      all_goals exact absurd (by decide) hsign
    rw [heq]
    exact cuts_unexpected

end Readers

end MediaNaming.Lexer
