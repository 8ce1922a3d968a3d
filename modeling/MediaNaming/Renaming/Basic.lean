import MediaNaming.Path
import MediaNaming.Placement.Resolve
import MediaNaming.Script.Eval
import MediaNaming.Script.Token

/-!
# Relocations

Scripts as they are handed in, the name and place that a file is given, and the ways in which that
fails.
-/

namespace MediaNaming

/-- A script, and the kind of scripts that it says it is. -/
structure Script where
  kind : String
  text : String
deriving DecidableEq

/-! ## New names -/

/-- The new name of a file and where it goes. -/
structure Relocation where
  filename : String
  destination : Destination
deriving DecidableEq

namespace Relocation

/-- The path of the file seen from the folder that it goes to. -/
def relativePath (relocation : Relocation) : String :=
  Path.join relocation.destination.subfolder relocation.filename

def fullPath (relocation : Relocation) : String :=
  Path.join relocation.destination.folder.location relocation.relativePath

end Relocation

/-! ## Errors -/

/-- Why a script is not run for a request. -/
inductive Rejection where
  | wrongKind (kind interpreter : String)
  | emptyScript
  | noAnime
  | noEpisodes
deriving DecidableEq

def Rejection.message : Rejection → String
  | wrongKind kind interpreter =>
    "script kind '" ++ kind ++ "' does not match interpreter '" ++ interpreter ++ "'"
  | emptyScript => "script is empty"
  | noAnime => "no anime info"
  | noEpisodes => "no episode info"

inductive RenameError where
  | rejected (reason : Rejection)
  | parse (error : SyntaxError)
  | eval (error : EvalError)
  | placement (error : PlacementError)
  /-- The script itself gave up. -/
  | cancelled (message : String)
deriving DecidableEq

def RenameError.message : RenameError → String
  | rejected reason => "Bad arguments: " ++ reason.message
  | parse error => "Parse error: " ++ error.located
  | eval error => "Evaluation error: " ++ error.message
  | placement error => "Destination error: " ++ error.message
  | cancelled message => "Cancelled: " ++ message

end MediaNaming
