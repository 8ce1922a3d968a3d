import MediaNaming.Reading
import MediaNaming.Script.Token
import MediaNaming.Text.Blank

/-!
# From texts to tokens

A script is cut into words, quoted texts, numbers and punctuation. Blanks and comments separate
tokens and are otherwise passed over.
-/

namespace MediaNaming.Lexer

/-! ## Blanks and comments -/

/-- What is being passed over: blanks, a comment to the end of its line, or one that is closed. -/
inductive Trivia where
  | blank
  | line
  | block (start : Position)

/-- Passes over blanks and comments. -/
def skipTrivia : Trivia → Position → List Char → Except SyntaxError (Position × List Char)
  | .blank, p, '/' :: '/' :: cs => skipTrivia .line (p.advance ['/', '/']) cs
  | .blank, p, '/' :: '*' :: cs => skipTrivia (.block p) (p.advance ['/', '*']) cs
  | .blank, p, c :: cs =>
    if Text.isBlank c then skipTrivia .blank (p.after c) cs else .ok (p, c :: cs)
  | .line, p, c :: cs => skipTrivia (if c = '\n' then .blank else .line) (p.after c) cs
  | .block _, p, '*' :: '/' :: cs => skipTrivia .blank (p.advance ['*', '/']) cs
  | .block start, p, c :: cs => skipTrivia (.block start) (p.after c) cs
  | .block start, _, [] => .error ⟨.unterminatedComment, start⟩
  | _, p, [] => .ok (p, [])

theorem length_of_skipTrivia {trivia : Trivia} {p q : Position} {cs rest : List Char}
    (h : skipTrivia trivia p cs = .ok (q, rest)) : rest.length ≤ cs.length := by
  fun_induction skipTrivia trivia p cs with grind

/-! ## Words -/

def isWordStart (c : Char) : Bool :=
  c.isAlpha || c == '_'

def isWordChar (c : Char) : Bool :=
  c.isAlphanum || c == '_'

/-! ## Quoted texts -/

/-- What a backslash and the character behind it stand for; unknown escapes stand for themselves. -/
def unescape : Char → List Char
  | '\'' => ['\'']
  | '"' => ['"']
  | '\\' => ['\\']
  | 'n' => ['\n']
  | 't' => ['\t']
  | c => ['\\', c]

/-- Reads up to the closing quote of the text that starts at `start`. -/
def quotedText (quote : Char) (start : Position) :
    Position → List Char → Except SyntaxError (List Char × Position × List Char)
  | p, ['\\'] => .error ⟨.incompleteEscape, p.after '\\'⟩
  | p, '\\' :: e :: cs => do
    let (value, q, rest) ← quotedText quote start (p.advance ['\\', e]) cs
    return (unescape e ++ value, q, rest)
  | p, c :: cs =>
    if c = quote then
      .ok ([], p.after c, cs)
    else do
      let (value, q, rest) ← quotedText quote start (p.after c) cs
      return (c :: value, q, rest)
  | _, [] => .error ⟨.unterminatedText, start⟩

theorem length_of_quotedText {quote : Char} {start p q : Position} {cs value rest : List Char}
    (h : quotedText quote start p cs = .ok (value, q, rest)) : rest.length ≤ cs.length := by
  fun_induction quotedText quote start p cs generalizing value q rest with
  | case1 => simp at h
  | case2 p e cs ih =>
    cases h' : quotedText quote start (p.advance ['\\', e]) cs with
    | error => simp only [h', bind, Except.bind, reduceCtorEq] at h
    | ok found =>
      obtain ⟨value', q', rest'⟩ := found
      simp only [h', bind, Except.bind, pure, Except.pure, Except.ok.injEq, Prod.mk.injEq] at h
      have := ih h'
      simp only [List.length_cons, ← h.2.2]
      omega
  | case3 p cs => grind
  | case4 p c cs _ _ _ ih =>
    cases h' : quotedText quote start (p.after c) cs with
    | error => simp only [h', bind, Except.bind, reduceCtorEq] at h
    | ok found =>
      obtain ⟨value', q', rest'⟩ := found
      simp only [h', bind, Except.bind, pure, Except.pure, Except.ok.injEq, Prod.mk.injEq] at h
      have := ih h'
      simp only [List.length_cons, ← h.2.2]
      omega
  | case5 => simp at h

/-! ## Single tokens -/

/-- A token's kind and the place behind it. -/
abbrev Lexeme := TokenKind × Position

/-- Dropping characters that satisfy `p`, the first one among them, leaves fewer. -/
theorem length_dropWhile_lt {p : Char → Bool} {c : Char} (cs : List Char) (h : p c = true) :
    ((c :: cs).dropWhile p).length < (c :: cs).length := by
  rw [List.dropWhile_cons_of_pos h]
  exact Nat.lt_succ_of_le (List.dropWhile_suffix p).length_le

def single (mark : Punctuation) (p : Position) (c : Char) (cs : List Char) :
    Taken Lexeme (c :: cs) :=
  ⟨(.punctuation mark, p.after c), cs, by simp⟩

/-- A mark that is the same character twice. -/
def doubled (mark : Punctuation) (p : Position) (c : Char) :
    (cs : List Char) → Except SyntaxError (Taken Lexeme (c :: cs))
  | d :: cs =>
    if d = c then
      .ok ⟨(.punctuation mark, p.advance [c, d]), cs, Nat.lt_succ_of_lt (Nat.lt_succ_self _)⟩
    else
      .error ⟨.halfMark mark, p⟩
  | [] => .error ⟨.halfMark mark, p⟩

/-- A mark that becomes another one if an equals sign follows. -/
def beforeEqual (short long : Punctuation) (p : Position) (c : Char) :
    (cs : List Char) → Taken Lexeme (c :: cs)
  | '=' :: cs =>
    ⟨(.punctuation long, p.advance [c, '=']), cs, Nat.lt_succ_of_lt (Nat.lt_succ_self _)⟩
  | cs => single short p c cs

def text (p : Position) (quote : Char) (cs : List Char) :
    Except SyntaxError (Taken Lexeme (quote :: cs)) :=
  match h : quotedText quote p (p.after quote) cs with
  | .ok (value, q, rest) =>
    .ok ⟨(.text (String.ofList value), q), rest, Nat.lt_succ_of_le (length_of_quotedText h)⟩
  | .error e => .error e

/-- The number that `spelling` denotes, which ends at `q`. -/
def numberOf (spelling : List Char) (q : Position) : Except SyntaxError TokenKind :=
  match (Text.readInt? spelling).bind Text.toInt64? with
  | some value => .ok (.number value)
  | none => .error ⟨.numberOutOfRange (String.ofList spelling), q⟩

/-- A number that starts with a digit. -/
def number (p : Position) (c : Char) (cs : List Char) (h : c.isDigit = true) :
    Except SyntaxError (Taken Lexeme (c :: cs)) := do
  let digits := (c :: cs).takeWhile Char.isDigit
  let q := p.advance digits
  let kind ← numberOf digits q
  return ⟨(kind, q), (c :: cs).dropWhile Char.isDigit, length_dropWhile_lt cs h⟩

/-- A number behind a minus sign, which a digit must follow. -/
def negative (p : Position) : (cs : List Char) → Except SyntaxError (Taken Lexeme ('-' :: cs))
  | d :: cs =>
    if h : d.isDigit then do
      let digits := (d :: cs).takeWhile Char.isDigit
      let q := p.advance ('-' :: digits)
      let kind ← numberOf ('-' :: digits) q
      return ⟨(kind, q), (d :: cs).dropWhile Char.isDigit,
        Nat.lt_succ_of_lt (length_dropWhile_lt cs h)⟩
    else
      .error ⟨.unexpectedCharacter '-', p⟩
  | [] => .error ⟨.unexpectedCharacter '-', p⟩

def word (p : Position) (c : Char) (cs : List Char) (h : isWordChar c = true) :
    Taken Lexeme (c :: cs) :=
  let name := (c :: cs).takeWhile isWordChar
  ⟨(.word (String.ofList name), p.advance name), (c :: cs).dropWhile isWordChar,
    length_dropWhile_lt cs h⟩

theorem isWordChar_of_isWordStart {c : Char} (h : isWordStart c = true) : isWordChar c = true := by
  simp only [isWordStart, isWordChar, Char.isAlphanum, Bool.or_eq_true] at h ⊢
  rcases h with h | h
  · exact .inl (.inl h)
  · exact .inr h

/-- The token that starts with `c` at `p`. -/
def token (p : Position) (c : Char) (cs : List Char) :
    Except SyntaxError (Taken Lexeme (c :: cs)) :=
  match c with
  | '(' => .ok (single .openParen p '(' cs)
  | ')' => .ok (single .closeParen p ')' cs)
  | '\x7b' => .ok (single .openBrace p '\x7b' cs)
  | '\x7d' => .ok (single .closeBrace p '\x7d' cs)
  | ',' => .ok (single .comma p ',' cs)
  | ';' => .ok (single .semicolon p ';' cs)
  | '+' => .ok (single .plus p '+' cs)
  | '=' => doubled .equal p '=' cs
  | '&' => doubled .and p '&' cs
  | '|' => doubled .or p '|' cs
  | '!' => .ok (beforeEqual .bang .notEqual p '!' cs)
  | '<' => .ok (beforeEqual .less .lessEqual p '<' cs)
  | '>' => .ok (beforeEqual .greater .greaterEqual p '>' cs)
  | '\'' => text p '\'' cs
  | '"' => text p '"' cs
  | '-' => negative p cs
  | c =>
    if h : c.isDigit then number p c cs h
    else if h : isWordStart c then .ok (word p c cs (isWordChar_of_isWordStart h))
    else .error ⟨.unexpectedCharacter c, p⟩

/-! ## Scripts -/

/-- The tokens of `cs`, which starts at `p`, and the place where it ends. -/
def tokensFrom (p : Position) (cs : List Char) : Except SyntaxError TokenList :=
  match h : skipTrivia .blank p cs with
  | .error e => .error e
  | .ok (q, []) => .ok ⟨[], q⟩
  | .ok (q, c :: rest) => do
    let lexeme ← token q c rest
    have : lexeme.rest.length < cs.length :=
      Nat.lt_of_lt_of_le lexeme.shorter (length_of_skipTrivia h)
    let more ← tokensFrom lexeme.value.2 lexeme.rest
    return ⟨⟨lexeme.value.1, q⟩ :: more.tokens, more.stop⟩
termination_by cs.length

def tokenize (script : String) : Except SyntaxError TokenList :=
  tokensFrom .start script.toList

end MediaNaming.Lexer
