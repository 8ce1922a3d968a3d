import MediaNaming.Placement.Marker
import MediaNaming.Text.Blank

/-!
# Sanitizing names

What a name on a disk must not hold is removed from it or replaced by characters that look alike.
-/

namespace MediaNaming

/-- Which characters are illegal in names, and whether they are removed or replaced. -/
structure SanitizePolicy where
  removeIllegal : Bool := false
  windowsCompatible : Bool := false
deriving DecidableEq

namespace SanitizePolicy

/-- Windows forbids nine characters, other systems the slash alone. -/
def isIllegal (policy : SanitizePolicy) (c : Char) : Bool :=
  if policy.windowsCompatible then
    ['<', '>', ':', '"', '/', '\\', '|', '?', '*'].contains c
  else
    c == '/'

/-- A character that looks like an illegal one and is legal. -/
def lookAlike? : Char → Option Char
  | '*' => some '★'
  | '|' => some '¦'
  | '\\' => some '⧹'
  | '/' => some '⁄'
  | ':' => some '։'
  | '"' => some '″'
  | '>' => some '›'
  | '<' => some '‹'
  | '?' => some '﹖'
  | _ => none

/-- What a character becomes: controls and markers nothing, illegal ones what the policy says. -/
def sanitizeChar (policy : SanitizePolicy) (c : Char) : Option Char :=
  if Text.isControl c || Marker.isMarker c then none
  else if !policy.isIllegal c then some c
  else if policy.removeIllegal then none
  else lookAlike? c

/-- Windows drops dots and spaces at the end of a name. -/
def isTrailing (c : Char) : Bool :=
  c == '.' || c == ' '

def sanitizeChars (policy : SanitizePolicy) (cs : List Char) : List Char :=
  let kept := cs.filterMap policy.sanitizeChar
  if policy.windowsCompatible then Text.dropTailWhile isTrailing kept else kept

/-- A text made fit to be one component of a path. -/
def sanitize (policy : SanitizePolicy) (text : String) : String :=
  String.ofList (policy.sanitizeChars text.toList)

example : sanitize ⟨false, true⟩ "Re:Zero? <1/2>. " = "Re։Zero﹖ ‹1⁄2›" := by decide +kernel

end SanitizePolicy

end MediaNaming
