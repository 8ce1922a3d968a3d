import MediaNaming.Json.Decode
import MediaNaming.Text.Blank
import MediaNaming.Text.Decimal

/-!
# Dates

Days of the proleptic Gregorian calendar, and their written form `year-month-day`.
-/

namespace MediaNaming

namespace Date

def isLeapYear (year : Int) : Bool :=
  year % 4 == 0 && (year % 100 != 0 || year % 400 == 0)

def daysInMonth (year : Int) : Nat → Nat
  | 2 => if isLeapYear year then 29 else 28
  | 4 | 6 | 9 | 11 => 30
  | _ => 31

/-- The days that exist, in the years that a date can hold. -/
def Valid (year : Int) (month day : Nat) : Prop :=
  -262143 ≤ year ∧ year ≤ 262142 ∧ 1 ≤ month ∧ month ≤ 12 ∧ 1 ≤ day ∧ day ≤ daysInMonth year month

instance (year : Int) (month day : Nat) : Decidable (Valid year month day) :=
  inferInstanceAs (Decidable (_ ∧ _))

end Date

/-- A day of the calendar. -/
structure Date where
  year : Int
  month : Nat
  day : Nat
  valid : Date.Valid year month day
deriving DecidableEq

namespace Date

def ofParts? (year : Int) (month day : Nat) : Option Date :=
  if h : Valid year month day then some ⟨year, month, day, h⟩ else none

/-! ## Writing -/

/-- Four digits at least; years of more than four digits and years before 0 show their sign. -/
def yearChars (year : Int) : List Char :=
  if 0 ≤ year ∧ year ≤ 9999 then
    Text.paddedInt 4 year
  else
    (if year < 0 then '-' else '+') :: Text.zeroFill 4 (Text.natChars year.natAbs)

def toChars (date : Date) : List Char :=
  yearChars date.year ++ '-' :: Text.paddedInt 2 date.month ++ '-' :: Text.paddedInt 2 date.day

def toString (date : Date) : String :=
  String.ofList date.toChars

/-! ## Reading -/

/-- A number of one digit or more, of `width` digits at most. -/
def number? (width : Nat) (cs : List Char) : Option (Nat × List Char) :=
  let digits := (cs.take width).takeWhile Char.isDigit
  if digits.isEmpty then none else some (Nat.ofDigitChars 10 digits 0, cs.drop digits.length)

/-- A year: with a sign of any number of digits, without one of four at most. -/
def year? (cs : List Char) : Option (Int × List Char) :=
  match cs with
  | '-' :: cs => (number? cs.length cs).map fun (n, rest) => (-(n : Int), rest)
  | '+' :: cs => (number? cs.length cs).map fun (n, rest) => ((n : Int), rest)
  | cs => (number? 4 cs).map fun (n, rest) => ((n : Int), rest)

def skipBlanks (cs : List Char) : List Char :=
  cs.dropWhile Text.isBlank

/-- A hyphen, perhaps behind blanks. -/
def hyphen? (cs : List Char) : Option (List Char) :=
  match skipBlanks cs with
  | '-' :: rest => some rest
  | _ => none

/-- Reads a date; blanks may stand before the numbers, before the hyphens and at the end. -/
def ofChars? (cs : List Char) : Option Date := do
  let (year, cs) ← year? (skipBlanks cs)
  let cs ← hyphen? cs
  let (month, cs) ← number? 2 (skipBlanks cs)
  let cs ← hyphen? cs
  let (day, cs) ← number? 2 (skipBlanks cs)
  if (skipBlanks cs).isEmpty then ofParts? year month day else none

def ofString? (text : String) : Option Date :=
  ofChars? text.toList

def ofJson? (json : Json) : Option Date :=
  json.text?.bind ofString?

def toJson (date : Date) : Json :=
  .text date.toString

example : (ofString? " 2013 - 4 -07 ").map toString = some "2013-04-07" := by decide +kernel
example : (ofString? "-44-03-15").map toString = some "-0044-03-15" := by decide +kernel
example : ofString? "1900-02-29" = none := by decide +kernel

end Date

end MediaNaming
