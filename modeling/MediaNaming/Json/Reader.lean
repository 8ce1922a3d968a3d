import MediaNaming.Json.Basic
import MediaNaming.Reading
import MediaNaming.Text.Decimal

/-!
# Reading JSON

Strict JSON: only the four blanks of JSON between tokens, no comments, no trailing commas, no
leading zeros, no bare controls in texts, and nothing but blanks behind the value.
-/

namespace MediaNaming.Json

/-! ## Blanks -/

def isJsonBlank (c : Char) : Bool :=
  c == ' ' || c == '\t' || c == '\n' || c == '\r'

def skipBlanks (cs : List Char) : List Char :=
  cs.dropWhile isJsonBlank

theorem length_skipBlanks_le (cs : List Char) : (skipBlanks cs).length ≤ cs.length :=
  (List.dropWhile_suffix _).length_le

/-! ## Texts -/

def hexDigit? (c : Char) : Option Nat :=
  if '0' ≤ c ∧ c ≤ '9' then some (c.toNat - '0'.toNat)
  else if 'a' ≤ c ∧ c ≤ 'f' then some (c.toNat - 'a'.toNat + 10)
  else if 'A' ≤ c ∧ c ≤ 'F' then some (c.toNat - 'A'.toNat + 10)
  else none

/-- The number that four hexadecimal digits spell. -/
def hex4? (a b c d : Char) : Option Nat := do
  let a ← hexDigit? a
  let b ← hexDigit? b
  let c ← hexDigit? c
  let d ← hexDigit? d
  return ((a * 16 + b) * 16 + c) * 16 + d

/-- The character behind a backslash stands for another one. -/
def escaped? : Char → Option Char
  | '"' => some '"'
  | '\\' => some '\\'
  | '/' => some '/'
  | 'b' => some '\x08'
  | 'f' => some '\x0c'
  | 'n' => some '\n'
  | 'r' => some '\r'
  | 't' => some '\t'
  | _ => none

/-- Reads up to the closing quote. An escape by number gives the number, be it half of a pair. -/
def textUnits : List Char → Option (List Nat × List Char)
  | '"' :: cs => some ([], cs)
  | '\\' :: 'u' :: a :: b :: c :: d :: cs => do
    let unit ← hex4? a b c d
    let (units, rest) ← textUnits cs
    return (unit :: units, rest)
  | '\\' :: e :: cs => do
    let c ← escaped? e
    let (units, rest) ← textUnits cs
    return (c.toNat :: units, rest)
  | c :: cs =>
    if c.toNat < 0x20 then none
    else (textUnits cs).map fun (units, rest) => (c.toNat :: units, rest)
  | [] => none

/-- The characters that the units denote; each half of a pair must meet its other half. -/
def joinUnits : List Nat → Option (List Char)
  | [] => some []
  | high :: low :: units =>
    if 0xD800 ≤ high ∧ high ≤ 0xDBFF then
      if 0xDC00 ≤ low ∧ low ≤ 0xDFFF then
        (joinUnits units).map (Char.ofNat (0x10000 + (high - 0xD800) * 0x400 + (low - 0xDC00)) :: ·)
      else
        none
    else if 0xDC00 ≤ high ∧ high ≤ 0xDFFF then
      none
    else
      (joinUnits (low :: units)).map (Char.ofNat high :: ·)
  | [unit] => if 0xD800 ≤ unit ∧ unit ≤ 0xDFFF then none else some [Char.ofNat unit]

theorem length_of_textUnits {cs rest : List Char} {units : List Nat}
    (h : textUnits cs = some (units, rest)) : rest.length < cs.length := by
  fun_induction textUnits cs generalizing units rest with
  | case1 cs => simp_all
  | case2 a b c d cs ih =>
    simp only [bind, Option.bind_eq_some_iff, pure] at h
    obtain ⟨_, _, ⟨units', rest'⟩, h', h⟩ := h
    have := ih h'
    simp only [Option.some.injEq, Prod.mk.injEq] at h
    simp only [List.length_cons, ← h.2]
    omega
  | case3 e cs _ ih =>
    simp only [bind, Option.bind_eq_some_iff, pure] at h
    obtain ⟨_, _, ⟨units', rest'⟩, h', h⟩ := h
    have := ih h'
    simp only [Option.some.injEq, Prod.mk.injEq] at h
    simp only [List.length_cons, ← h.2]
    omega
  | case4 => simp at h
  | case5 c cs _ _ _ _ ih =>
    simp only [Option.map_eq_some_iff] at h
    obtain ⟨⟨units', rest'⟩, h', h⟩ := h
    have := ih h'
    simp only [Prod.mk.injEq] at h
    simp only [List.length_cons, ← h.2]
    omega
  | case6 => simp at h

/-- The text up to the closing quote; none inside if it is garbled. -/
def readText (cs : List Char) : Option (Taken (Option String) cs) :=
  match h : textUnits cs with
  | some (units, rest) => some ⟨(joinUnits units).map String.ofList, rest, length_of_textUnits h⟩
  | none => none

def ofReadText : Option String → Json
  | some value => .text value
  | none => .garbled

/-! ## Numbers -/

/-- A digit or more: the digits and the rest. -/
def digits? (cs : List Char) : Option (List Char × List Char) :=
  let digits := cs.takeWhile Char.isDigit
  if digits.isEmpty then none else some (digits, cs.dropWhile Char.isDigit)

/-- The part of a number behind a point, if there is a point; it needs a digit. -/
def fraction? : List Char → Option (List Char × List Char)
  | '.' :: cs => (digits? cs).map fun (digits, rest) => ('.' :: digits, rest)
  | cs => some ([], cs)

def exponentDigits? : List Char → Option (List Char × List Char)
  | '+' :: cs => (digits? cs).map fun (digits, rest) => ('+' :: digits, rest)
  | '-' :: cs => (digits? cs).map fun (digits, rest) => ('-' :: digits, rest)
  | cs => digits? cs

def exponent? : List Char → Option (List Char × List Char)
  | 'e' :: cs => (exponentDigits? cs).map fun (digits, rest) => ('e' :: digits, rest)
  | 'E' :: cs => (exponentDigits? cs).map fun (digits, rest) => ('E' :: digits, rest)
  | cs => some ([], cs)

/-- Whole digits are an integer if they are not `-0` and fit 64 bits, signed or not. -/
def ofDigits (negative : Bool) (digits : List Char) : Json :=
  let size := Nat.ofDigitChars 10 digits 0
  if negative then
    if size = 0 ∨ Text.int64Bound < size then .real (String.ofList ('-' :: digits))
    else .integer (-size)
  else
    if UInt64.size ≤ size then .real (String.ofList digits) else .integer size

/-- An unsigned number: digits without a leading zero, a fraction, an exponent. -/
def unsigned? (negative : Bool) (cs : List Char) : Option (Json × List Char) := do
  let (whole, cs) ← digits? cs
  if whole.length ≠ 1 ∧ whole.head? = some '0' then none
  let (fraction, cs) ← fraction? cs
  let (exponent, rest) ← exponent? cs
  if fraction.isEmpty && exponent.isEmpty then
    return (ofDigits negative whole, rest)
  else
    let sign := if negative then ['-'] else []
    return (.real (String.ofList (sign ++ whole ++ fraction ++ exponent)), rest)

def number? : List Char → Option (Json × List Char)
  | '-' :: cs => unsigned? true cs
  | cs => unsigned? false cs

/-- A number, if one stands in front. -/
def readNumber (cs : List Char) : Option (Taken Json cs) :=
  match number? cs with
  | some (number, rest) => if h : rest.length < cs.length then some ⟨number, rest, h⟩ else none
  | none => none

/-! ## Values -/

mutual

/-- Reads the value that starts with the first character. -/
def readValue (cs : List Char) : Option (Taken Json cs) :=
  match cs with
  | 'n' :: 'u' :: 'l' :: 'l' :: cs => some ⟨.null, cs, by simp; omega⟩
  | 't' :: 'r' :: 'u' :: 'e' :: cs => some ⟨.bool true, cs, by simp; omega⟩
  | 'f' :: 'a' :: 'l' :: 's' :: 'e' :: cs => some ⟨.bool false, cs, by simp; omega⟩
  | '"' :: cs => do
    let text ← readText cs
    return (text.map ofReadText).widen (by simp)
  | '[' :: cs =>
    match h : skipBlanks cs with
    | ']' :: rest => some ⟨.array [], rest, by
        have := length_skipBlanks_le cs
        simp [h] at this ⊢; omega⟩
    | _ => do
      let items ← readItems (skipBlanks cs)
      return (items.map .array).widen (by
        have := length_skipBlanks_le cs
        simp; omega)
  | '\x7b' :: cs =>
    match h : skipBlanks cs with
    | '\x7d' :: rest => some ⟨.object [], rest, by
        have := length_skipBlanks_le cs
        simp [h] at this ⊢; omega⟩
    | _ => do
      let members ← readMembers (skipBlanks cs)
      return (members.map ofMembers).widen (by
        have := length_skipBlanks_le cs
        simp; omega)
  | cs => readNumber cs
termination_by (cs.length, 0)
decreasing_by
  all_goals
    have := length_skipBlanks_le cs
    simp_wf
    exact Prod.Lex.left _ _ (by omega)

/-- Reads the items of an array from the first one to the closing bracket. -/
def readItems (cs : List Char) : Option (Taken (List Json) cs) := do
  let item ← readValue cs
  match h : skipBlanks item.rest with
  | ',' :: rest =>
    have : (skipBlanks rest).length < cs.length := by
      have h₁ := length_skipBlanks_le item.rest
      have h₂ := length_skipBlanks_le rest
      have h₃ := item.shorter
      simp [h] at h₁
      omega
    let items ← readItems (skipBlanks rest)
    return (items.map (item.value :: ·)).widen (Nat.le_of_lt this)
  | ']' :: rest =>
    return ⟨[item.value], rest, by
      have h₁ := length_skipBlanks_le item.rest
      have h₃ := item.shorter
      simp [h] at h₁
      omega⟩
  | _ => none
termination_by (cs.length, 1)

/-- Reads the members of an object from the first name to the closing brace. -/
def readMembers (cs : List Char) : Option (Taken (List (Option String × Json)) cs) :=
  match cs with
  | '"' :: cs => do
    let name ← readText cs
    match h : skipBlanks name.rest with
    | ':' :: cs₂ =>
      have : (skipBlanks cs₂).length < cs.length + 1 := by
        have h₁ := length_skipBlanks_le name.rest
        have h₂ := length_skipBlanks_le cs₂
        have h₃ := name.shorter
        simp only [h, List.length_cons] at h₁
        omega
      let value ← readValue (skipBlanks cs₂)
      match h : skipBlanks value.rest with
      | ',' :: rest =>
        have : (skipBlanks rest).length < cs.length + 1 := by
          have h₁ := length_skipBlanks_le value.rest
          have h₂ := length_skipBlanks_le rest
          have h₃ := value.shorter
          simp only [h, List.length_cons] at h₁
          omega
        let members ← readMembers (skipBlanks rest)
        return (members.map ((name.value, value.value) :: ·)).widen (Nat.le_of_lt this)
      | '\x7d' :: rest =>
        return ⟨[(name.value, value.value)], rest, by
          have h₁ := length_skipBlanks_le value.rest
          have h₃ := value.shorter
          simp only [h, List.length_cons] at h₁
          simp only [List.length_cons]
          omega⟩
      | _ => none
    | _ => none
  | _ => none
termination_by (cs.length, 1)

end

/-- The value that a text is the JSON of. -/
def read? (text : String) : Option Json := do
  let value ← readValue (skipBlanks text.toList)
  if (skipBlanks value.rest).isEmpty then some value.value else none

end MediaNaming.Json
