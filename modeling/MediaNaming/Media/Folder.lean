import MediaNaming.Json.Decode
import MediaNaming.Path
import MediaNaming.Text.Blank

/-!
# Import folders

The folders that files come from and go to, and where a path lies below them.
-/

namespace MediaNaming

/-! ## Roles -/

/-- What a folder is for, as a set of flags. -/
structure FolderRole where
  bits : UInt8 := 0
deriving DecidableEq

namespace FolderRole

def none : FolderRole := ⟨0⟩
def source : FolderRole := ⟨1⟩
def destination : FolderRole := ⟨2⟩
def excluded : FolderRole := ⟨4⟩

/-- Whether every flag of `other` is set. -/
def contains (role other : FolderRole) : Bool :=
  role.bits &&& other.bits == other.bits

/-- The flags of both. -/
def union (role other : FolderRole) : FolderRole :=
  ⟨role.bits ||| other.bits⟩

end FolderRole

/-! ## Locations -/

/-- Drops the slashes at the end. -/
def dropSlashes (cs : List Char) : List Char :=
  Text.dropTailWhile (· == '/') cs

/-- A location with slashes only, none at the end; the root alone is a slash. -/
def normalizedChars (path : List Char) : List Char :=
  let slashed := path.map fun c => if c = '\\' then '/' else c
  let trimmed := dropSlashes slashed
  if trimmed.isEmpty && slashed.head? == some '/' then ['/'] else trimmed

def normalizeLocation (path : String) : String :=
  String.ofList (normalizedChars path.toList)

/-- The pieces of a normalized location that are not empty. -/
def locationParts (path : String) : List String :=
  (Text.split '/' (normalizeLocation path)).filter (· != "")

/-! ## Folders -/

structure ImportFolder where
  id : Int64
  name : String
  location : String
  role : FolderRole := {}
deriving DecidableEq

namespace ImportFolder

/-- Files may be moved to folders that are a destination and not excluded. -/
def isDestination (folder : ImportFolder) : Bool :=
  folder.role.contains .destination && !folder.role.contains .excluded

def isSource (folder : ImportFolder) : Bool :=
  folder.role.contains .source

def normalizedLocation (folder : ImportFolder) : String :=
  normalizeLocation folder.location

def parts (folder : ImportFolder) : List String :=
  locationParts folder.location

/-- How many parts the location has if `path` lies below it. -/
def depthAbove? (folder : ImportFolder) (path : String) : Option Nat :=
  if folder.parts.isPrefixOf (locationParts path) then some folder.parts.length else .none

/-- The directories between the folder and the file at `path`. -/
def relativeDirs? (folder : ImportFolder) (path : String) : Option (List String) :=
  (folder.depthAbove? path).map fun depth => ((locationParts path).drop depth).dropLast

def toJson (folder : ImportFolder) : Json :=
  .object [
    ("id", .ofInt64 folder.id),
    ("name", .text folder.name),
    ("location", .text folder.location),
    ("kind", .ofByte folder.role.bits)]

def ofJson? (json : Json) : Option ImportFolder := do
  let record ← json.record? ["id", "name", "location", "kind"]
  let id ← record.field "id" Json.int64?
  let name ← record.field "name" Json.text?
  let location ← record.field "location" Json.text?
  let bits ← record.fieldOr "kind" 0 Json.byte?
  return { id, name, location, role := ⟨bits⟩ }

end ImportFolder

end MediaNaming
