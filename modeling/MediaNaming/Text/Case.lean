import MediaNaming.Text.CaseTable

/-!
# Upper and lower case

Case mapping without a locale: a character may become several, and a capital sigma becomes the
final form at the end of a word.
-/

namespace MediaNaming.Text

/-! ## Single characters -/

/-- The image of `c` under a table of runs and a table of expansions. -/
def mapCase (runs : List CaseRun) (expansions : List (Nat × List Nat)) (c : Char) : List Char :=
  match CaseRun.find? c.toNat runs with
  | some n => [Char.ofNat n]
  | none =>
    match expansions.lookup c.toNat with
    | some ns => ns.map Char.ofNat
    | none => [c]

def upperChar (c : Char) : List Char :=
  mapCase upperRuns upperExpansions c

/-- The lower case of a character that stands alone. -/
def lowerChar (c : Char) : List Char :=
  mapCase lowerRuns lowerExpansions c

def isCased (c : Char) : Bool :=
  inRanges c.toNat casedRanges

def isCaseIgnorable (c : Char) : Bool :=
  inRanges c.toNat caseIgnorableRanges

/-! ## The final sigma -/

/-- Whether the first character that is not ignorable is a cased letter. -/
def startsCased (cs : List Char) : Bool :=
  match cs.dropWhile isCaseIgnorable with
  | [] => false
  | c :: _ => isCased c

/-- A sigma is final if a letter stands before it, nearest first in `before`, and none after. -/
def isFinalSigma (before after : List Char) : Bool :=
  startsCased before && !startsCased after

/-! ## Texts -/

def upperChars (cs : List Char) : List Char :=
  cs.flatMap upperChar

/-- The lower case of `cs` where the characters in `before` stand in front, nearest first. -/
def lowerAfter (before : List Char) : List Char → List Char
  | [] => []
  | c :: cs =>
    let image :=
      if c = 'Σ' then
        if isFinalSigma before cs then ['ς'] else ['σ']
      else
        lowerChar c
    image ++ lowerAfter (c :: before) cs

def lowerChars (cs : List Char) : List Char :=
  lowerAfter [] cs

def upper (text : String) : String :=
  String.ofList (upperChars text.toList)

def lower (text : String) : String :=
  String.ofList (lowerChars text.toList)

/-- Texts are the same up to case if their lower cases are equal. -/
def sameIgnoringCase (a b : String) : Bool :=
  lower a == lower b

/-! ## The ASCII letters alone -/

/-- Lower case of the letters `A` to `Z`; all else stays. -/
def asciiLower (text : String) : String :=
  String.ofList (text.toList.map Char.toLower)

/-- Texts are the same if they differ at most in the case of ASCII letters. -/
def sameIgnoringAsciiCase (a b : String) : Bool :=
  asciiLower a == asciiLower b

example : upper "straße ŉ" = "STRASSE ʼN" := by decide +kernel
example : lower "ΑΣ ΑΣΑ İ" = "ας ασα i̇" := by decide +kernel

end MediaNaming.Text
