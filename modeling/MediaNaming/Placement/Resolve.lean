import MediaNaming.Media.Folder
import MediaNaming.Placement.Sanitize
import MediaNaming.Script.Buffers
import MediaNaming.Text.Case

/-!
# Placing files

From what a script wrote to the import folder and the subfolder that a file goes to.
-/

namespace MediaNaming

/-- A folder and the path of a directory below it. -/
structure Destination where
  folder : ImportFolder
  subfolder : String
deriving DecidableEq

inductive PlacementError where
  /-- No destination folder has this name or location. -/
  | noSuchDestination (name : String)
  /-- The file is to stay in its folder, which is no destination. -/
  | noCurrentDestination
  /-- A wildcard stands where the file has no segment now. -/
  | wildcardOutOfRange (index : Nat)
  | emptySubfolder
deriving DecidableEq

def PlacementError.message : PlacementError → String
  | noSuchDestination name => "bad destination: no destination folder matches '" ++ name ++ "'"
  | noCurrentDestination =>
    "no destination was set and the file is not inside a destination folder"
  | wildcardOutOfRange index =>
    "wildcard segment " ++ Text.nat index ++ " has no matching segment in the current subfolder"
  | emptySubfolder => "subfolder is empty"

namespace Placement

/-! ## Folders -/

/-- Whether a folder answers to a name: its own name or its location, ignoring case. -/
def answersTo (folder : ImportFolder) (name : String) : Bool :=
  Text.sameIgnoringCase folder.name name ||
    Text.sameIgnoringCase folder.normalizedLocation (normalizeLocation name)

/-- The first destination folder that answers to the name. -/
def findDestination? (folders : List ImportFolder) (name : String) : Option ImportFolder :=
  (folders.filter ImportFolder.isDestination).find? fun folder => answersTo folder name

/-- Whether the path lies below the folder. -/
def isAbove (folder : ImportFolder) (path : String) : Bool :=
  (folder.depthAbove? path).isSome

/-- The folder with the longest location of those above the path; the last one if several are. -/
def deepestAbove? (path : String) : List ImportFolder → Option ImportFolder
  | [] => none
  | folder :: folders =>
    match deepestAbove? path folders with
    | some deepest =>
      if isAbove folder path && deepest.parts.length < folder.parts.length then some folder
      else some deepest
    | none => if isAbove folder path then some folder else none

/-- The destination folder that the file is in now. -/
def currentDestination? (folders : List ImportFolder) (path : String) : Option ImportFolder :=
  deepestAbove? path (folders.filter ImportFolder.isDestination)

/-- The directories that the file is in now, below the deepest folder of any role. -/
def currentSegments (folders : List ImportFolder) (path : String) : List String :=
  match deepestAbove? path folders with
  | some folder => (folder.relativeDirs? path).getD []
  | none => []

/-! ## Segments -/

/-- Whether a part of the subfolder is a wildcard and nothing else. -/
def isWildcard (part : String) : Bool :=
  Text.trimChars part.toList == [Marker.wildcard]

/-- A part that is not a wildcard as a segment: its wildcards are stars again. -/
def literalSegment (policy : SanitizePolicy) (part : String) : String :=
  let starred := part.toList.map fun c => if c = Marker.wildcard then '*' else c
  String.ofList (policy.sanitizeChars (Text.trimChars starred))

/-- The segments from the one at `index` on; empty ones are left out and do not count. -/
def segmentsFrom (policy : SanitizePolicy) (current : List String) (index : Nat) :
    List String → Except PlacementError (List String)
  | [] => .ok []
  | part :: parts =>
    if isWildcard part then
      match current[index]? with
      | some kept => do
        let segments ← segmentsFrom policy current (index + 1) parts
        return kept :: segments
      | none => .error (.wildcardOutOfRange index)
    else
      let segment := literalSegment policy part
      if segment.isEmpty then
        segmentsFrom policy current index parts
      else do
        let segments ← segmentsFrom policy current (index + 1) parts
        return segment :: segments

/-- The segments that a subfolder buffer asks for. -/
def segments (policy : SanitizePolicy) (current : List String) (subfolder : String) :
    Except PlacementError (List String) :=
  segmentsFrom policy current 0 (Text.split Marker.separator subfolder)

/-! ## Destinations -/

/-- The folder that is asked for by name, or the one that the file is in now. -/
def destinationFolder (folders : List ImportFolder) (path name : String) :
    Except PlacementError ImportFolder :=
  if name.isEmpty then
    match currentDestination? folders path with
    | some folder => .ok folder
    | none => .error .noCurrentDestination
  else
    match findDestination? folders name with
    | some folder => .ok folder
    | none => .error (.noSuchDestination name)

/--
Where the file at `path` goes. Nowhere if neither buffer was written and no folder is asked for; a
subfolder that was not written stays what it is.
-/
def resolve (buffers : Buffers) (folders : List ImportFolder) (path : String)
    (policy : SanitizePolicy) : Except PlacementError (Option Destination) :=
  let name := Text.trim buffers.destination
  if name.isEmpty && !buffers.destinationWritten && !buffers.subfolderWritten then
    .ok none
  else do
    let folder ← destinationFolder folders path name
    let current := currentSegments folders path
    let segments ←
      if buffers.subfolderWritten then segments policy current buffers.subfolder else pure current
    if segments.isEmpty then
      throw .emptySubfolder
    return some ⟨folder, "/".intercalate segments⟩

end Placement

end MediaNaming
