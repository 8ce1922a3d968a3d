/-!
# Searching in texts

Occurrence, replacement and splitting, on lists of characters and on texts.
-/

namespace MediaNaming.Text

/-! ## Lists of characters -/

/-- Whether `needle` occurs in the characters as one unbroken piece. -/
def occursIn (needle : List Char) : List Char → Bool
  | [] => needle.isEmpty
  | c :: cs => needle.isPrefixOf (c :: cs) || occursIn needle cs

/--
Replaces the occurrences of `pattern`, found from left to right without overlap, by `image`.
The number counts the characters of an occurrence that are still to be passed over.
-/
def replaceFrom (pattern image : List Char) : Nat → List Char → List Char
  | _, [] => []
  | passed + 1, _ :: cs => replaceFrom pattern image passed cs
  | 0, c :: cs =>
    if pattern.isPrefixOf (c :: cs) then
      image ++ replaceFrom pattern image (pattern.length - 1) cs
    else
      c :: replaceFrom pattern image 0 cs

/-- The pieces between the occurrences of `separator`; one piece more than there are of them. -/
def splitChars (separator : Char) : List Char → List (List Char)
  | [] => [[]]
  | c :: cs =>
    if c = separator then
      [] :: splitChars separator cs
    else
      match splitChars separator cs with
      | [] => [[c]]
      | piece :: pieces => (c :: piece) :: pieces

/-! ## Texts -/

def contains (text needle : String) : Bool :=
  occursIn needle.toList text.toList

/-- Replaces every occurrence of `pattern`; an empty pattern occurs nowhere. -/
def replace (text pattern image : String) : String :=
  if pattern.isEmpty then
    text
  else
    String.ofList (replaceFrom pattern.toList image.toList 0 text.toList)

def split (separator : Char) (text : String) : List String :=
  (splitChars separator text.toList).map String.ofList

/-! ## Occurrences -/

theorem occursIn_iff {needle cs : List Char} : occursIn needle cs = true ↔ needle <:+: cs := by
  induction cs with
  | nil => simp [occursIn]
  | cons c cs ih =>
    rw [occursIn, Bool.or_eq_true, ih, List.isPrefixOf_iff_prefix, List.infix_cons_iff]

theorem contains_iff {text needle : String} :
    contains text needle = true ↔ needle.toList <:+: text.toList :=
  occursIn_iff

/-! ## Splitting loses nothing -/

theorem splitChars_ne_nil (separator : Char) (cs : List Char) : splitChars separator cs ≠ [] := by
  cases cs with
  | nil => simp [splitChars]
  | cons c cs =>
    simp only [splitChars]
    split
    · simp
    · split <;> simp

theorem intercalate_splitChars (separator : Char) (cs : List Char) :
    [separator].intercalate (splitChars separator cs) = cs := by
  induction cs with
  | nil => simp [splitChars]
  | cons c cs ih =>
    cases h : splitChars separator cs with
    | nil => exact absurd h (splitChars_ne_nil separator cs)
    | cons piece pieces =>
      rw [h] at ih
      by_cases hc : c = separator
      · simp [splitChars, hc, h, ih]
      · cases pieces <;> simp_all [splitChars]

end MediaNaming.Text
