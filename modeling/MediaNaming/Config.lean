import MediaNaming.Json.Decode
import MediaNaming.Json.Printer
import MediaNaming.Json.Reader
import MediaNaming.Path
import MediaNaming.Placement.Sanitize
import MediaNaming.Storage.Task
import MediaNaming.Text.Quoted

/-!
# Configurations

How names are made fit for disks and how many scripts are kept, and the file that this is read from
and saved to.
-/

namespace MediaNaming

structure Config where
  /-- The kind of scripts that are run. -/
  interpreterId : String := "RenameScript"
  removeIllegal : Bool := false
  windowsCompatible : Bool := false
  /-- How many parsed scripts are kept. -/
  cacheCapacity : UInt64 := 16
deriving DecidableEq

/-! ## Errors -/

/-- Why a configuration could not be loaded or saved. -/
inductive ConfigError where
  | unreadable (path : String)
  | malformed
  | failed (change : FileChange)
deriving DecidableEq

def ConfigError.message : ConfigError → String
  | unreadable path => "Failed to read config: " ++ Text.quoted path
  | malformed => "Failed to deserialize config"
  | failed (.create path) => "Failed to create temp file: " ++ Text.quoted path
  | failed (.write _ _) => "Failed to write config"
  | failed (.sync _) => "Failed to sync config"
  | failed (.move source target) =>
    "Failed to rename " ++ Text.quoted source ++ " to " ++ Text.quoted target

namespace Config

/-- How the names of files and directories are sanitized. -/
def policy (config : Config) : SanitizePolicy :=
  { removeIllegal := config.removeIllegal, windowsCompatible := config.windowsCompatible }

/-! ## Text -/

def toJson (config : Config) : Json :=
  .object [
    ("interpreter_id", .text config.interpreterId),
    ("remove_illegal_chars", .bool config.removeIllegal),
    ("windows_compatible", .bool config.windowsCompatible),
    ("cache_capacity", .ofUInt64 config.cacheCapacity)]

def ofJson? (json : Json) : Option Config := do
  let record ← json.record?
    ["interpreter_id", "remove_illegal_chars", "windows_compatible", "cache_capacity"]
  let interpreterId ← record.fieldOr "interpreter_id" "RenameScript" Json.text?
  let removeIllegal ← record.fieldOr "remove_illegal_chars" false Json.bool?
  let windowsCompatible ← record.fieldOr "windows_compatible" false Json.bool?
  let cacheCapacity ← record.fieldOr "cache_capacity" 16 Json.uint64?
  return { interpreterId, removeIllegal, windowsCompatible, cacheCapacity }

def toText (config : Config) : String :=
  config.toJson.pretty

def ofContent? : Content → Option Config
  | .text value => (Json.read? value).bind ofJson?
  | .binary => none

/-! ## Files -/

/-- Reads the configuration in the file at a path. -/
def load (path : String) : FileTask (Except ConfigError Config) := do
  match ← FileTask.readFile path with
  | none => return .error (.unreadable path)
  | some content =>
    match ofContent? content with
    | none => return .error .malformed
    | some config => return .ok config

/-- Where a configuration is written before it takes its place. -/
def temporaryPath (path : String) : String :=
  Path.withExtension path "tmp"

/-- The changes that put the configuration into the file at a path. -/
def saving (config : Config) (path : String) : List FileChange := [
  .create (temporaryPath path),
  .write (temporaryPath path) config.toText,
  .sync (temporaryPath path),
  .move (temporaryPath path) path]

/-- Saves the configuration in the file at a path. -/
def save (config : Config) (path : String) : FileTask (Except ConfigError Unit) := do
  match ← FileTask.changeAll (config.saving path) with
  | none => return .ok ()
  | some change => return .error (.failed change)

end Config

end MediaNaming
