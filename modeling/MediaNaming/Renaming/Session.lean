import MediaNaming.Config
import MediaNaming.Renaming.Basic
import MediaNaming.Script.Pass
import MediaNaming.Script.Store

/-!
# Sessions

A configuration with a store of parsed scripts, and the questions that it answers: what a file is
to be called, where it is to go, or both.
-/

namespace MediaNaming

/-! ## What a program says -/

def PassError.toRenameError : PassError → RenameError
  | eval error => .eval error
  | cancelled message => .cancelled message

namespace Program

/-- The buffers that a pass leaves, or nothing if the script skipped. -/
def buffers? (program : Program) (pass : Pass) (request : Request) :
    Except RenameError (Option Buffers) :=
  match program.run pass request with
  | .ok (.completed buffers) => .ok (some buffers)
  | .ok .skipped => .ok none
  | .error error => .error error.toRenameError

/-- The new name: what the script wrote, sanitized, and the extension that the file has now. -/
def nameOf (config : Config) (request : Request) (buffers : Buffers) : Option String :=
  let stem := config.policy.sanitize (Text.trim buffers.filename)
  if Text.isBlankText stem then none else some (stem ++ request.file.extension)

/-- The new name; none if the script skipped or wrote nothing. -/
def filename (program : Program) (config : Config) (request : Request) :
    Except RenameError (Option String) := do
  match ← program.buffers? .filename request with
  | some buffers => return nameOf config request buffers
  | none => return none

/-- The new place; none if the script skipped or asked for none. -/
def destination (program : Program) (config : Config) (request : Request) :
    Except RenameError (Option Destination) := do
  match ← program.buffers? .placement request with
  | some buffers =>
    (Placement.resolve buffers request.importFolders request.file.path config.policy).mapError
      .placement
  | none => return none

/-- The new name and place; none unless there are both. -/
def relocation (program : Program) (config : Config) (request : Request) :
    Except RenameError (Option Relocation) := do
  match ← program.filename config request with
  | none => return none
  | some filename =>
    match ← program.destination config request with
    | none => return none
    | some destination => return some { filename, destination }

end Program

/-! ## Sessions -/

structure Session where
  config : Config := {}
  store : ScriptStore := .empty config.cacheCapacity.toNat

namespace Session

/-- A session without any scripts yet. -/
def start (config : Config) : Session :=
  { config }

/-- What a script is read as. -/
def check (session : Session) (text : String) : Reading × Session :=
  let (reading, store) := session.store.get text
  (reading, { session with store })

/-- Why a script is not run for a request, if it is not; the first reason counts. -/
def rejection? (config : Config) (script : Script) (request : Request) : Option Rejection :=
  if script.kind != config.interpreterId then
    some (.wrongKind script.kind config.interpreterId)
  else if Text.isBlankText script.text then some .emptyScript
  else if request.anime.isEmpty then some .noAnime
  else if request.episodes.isEmpty then some .noEpisodes
  else none

/-- Asks a question of the program that a script is read as. -/
def ask {α : Type} (session : Session) (script : Script) (request : Request)
    (question : Program → Config → Request → Except RenameError α) :
    Except RenameError α × Session :=
  match rejection? session.config script request with
  | some reason => (.error (.rejected reason), session)
  | none =>
    match session.check script.text with
    | (.ok parsed, session) => (question parsed.program session.config request, session)
    | (.error error, session) => (.error (.parse error), session)

/-- What the file of a request is to be called. -/
def filename (session : Session) (script : Script) (request : Request) :
    Except RenameError (Option String) × Session :=
  session.ask script request Program.filename

/-- Where the file of a request is to go. -/
def destination (session : Session) (script : Script) (request : Request) :
    Except RenameError (Option Destination) × Session :=
  session.ask script request Program.destination

/-- What the file of a request is to be called and where it is to go. -/
def rename (session : Session) (script : Script) (request : Request) :
    Except RenameError (Option Relocation) × Session :=
  session.ask script request Program.relocation

end Session

end MediaNaming
