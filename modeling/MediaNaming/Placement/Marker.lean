/-!
# Path markers

In a text that is to become a subfolder two private characters have a meaning: one separates
segments, the other stands for the segment that the file has now. Only what a script writes
literally may bring them in.
-/

namespace MediaNaming.Marker

def separator : Char := '\uE000'

def wildcard : Char := '\uE001'

def isMarker (c : Char) : Bool :=
  c == separator || c == wildcard

/-- A character of a literal: slashes of both kinds separate, a star is a wildcard. -/
def ofLiteralChar : Char → Char
  | '/' => separator
  | '\\' => separator
  | '*' => wildcard
  | c => c

def markChars (cs : List Char) : List Char :=
  cs.map ofLiteralChar

def stripChars (cs : List Char) : List Char :=
  cs.filter fun c => !isMarker c

/-- The text of a literal with its markers. -/
def markLiteral (text : String) : String :=
  String.ofList (markChars text.toList)

/-- The text without markers. -/
def strip (text : String) : String :=
  String.ofList (stripChars text.toList)

end MediaNaming.Marker
