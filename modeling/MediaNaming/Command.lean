import MediaNaming.Arguments
import MediaNaming.Config
import MediaNaming.Renaming.Session

/-!
# Commands

What the command line asks for: to check a script, to show how a file would be renamed, or to write
a configuration; and what it is answered.
-/

namespace MediaNaming

/-! ## Reading the command line -/

inductive Command where
  | check (script : String)
  | rename (script request : String) (kind : Option String) (filenameOnly : Bool)
  | initConfig (path : String)
deriving DecidableEq

/-- A command, and the file with the configuration that it uses. -/
structure Invocation where
  config : Option String
  command : Command
deriving DecidableEq

/-- A path must not be empty. -/
def path? (text : String) : Option String :=
  if text.isEmpty then none else some text

namespace Command

/-- The command of that name with its arguments. -/
def ofArguments? (name : String) (words : List String) : Option Command := do
  match name with
  | "check" =>
    let arguments ← Arguments.read? [] [] words
    let [script] := arguments.operands | none
    return check (← path? script)
  | "rename" =>
    let arguments ← Arguments.read? ["--kind"] ["--filename-only"] words
    let [script, request] := arguments.operands | none
    let kind := arguments.options.lookup "--kind"
    return rename (← path? script) (← path? request) kind (!arguments.flags.isEmpty)
  | "init-config" =>
    let arguments ← Arguments.read? [] [] words
    let [path] := arguments.operands | none
    return initConfig (← path? path)
  | _ => none

end Command

namespace Invocation

/-- The option that names the configuration. -/
def isConfigOption (name : String) : Bool :=
  name == "-c" || name == "--config"

/-- Reads the words of a command line: the configuration stands in front of the command. -/
def ofWords? (words : List String) : Option Invocation := do
  match words with
  | [] => none
  | word :: words =>
    match ArgumentForm.of word with
    | .operand name => return ⟨none, ← Command.ofArguments? name words⟩
    | .endOfOptions => none
    | .option option attached =>
      if !isConfigOption option then none
      else
        let (config, words) ← configValue? attached words
        let name :: words := words | none
        return ⟨some (← path? config), ← Command.ofArguments? name words⟩
where
  /-- The value of the option, in its own word or in the next one. -/
  configValue? : Option String → List String → Option (String × List String)
    | some value, words => some (value, words)
    | none, value :: words =>
      match ArgumentForm.of value with
      | .operand value => some (value, words)
      | _ => none
    | none, [] => none

end Invocation

/-! ## Errors -/

inductive CommandError where
  | config (error : ConfigError)
  | unreadableScript (path : String)
  | unreadableRequest (path : String)
  | malformedRequest
  /-- The script in a file cannot be read. -/
  | syntaxError (path : String) (error : SyntaxError)
  | rename (error : RenameError)
deriving DecidableEq

def CommandError.message : CommandError → String
  | config error => error.message
  | unreadableScript path => "Failed to read script: " ++ Text.quoted path
  | unreadableRequest path => "Failed to read request: " ++ Text.quoted path
  | malformedRequest => "Failed to deserialize request"
  | syntaxError path error => path ++ ": " ++ error.located
  | rename error => error.message

/-- A character of an announcement: the controls that steer a terminal are spelled by number. -/
def announcedChar (c : Char) : List Char :=
  if c ∈ ['\x07', '\x08', '\x0c', '\x1b', '\x7f'] then
    ['\\', 'x', Nat.digitChar (c.toNat / 16), Nat.digitChar (c.toNat % 16)]
  else if 0x80 ≤ c.toNat ∧ c.toNat ≤ 0x9F then
    Text.quotedChar c
  else
    [c]

/-- What is announced in front of an error: a script that gives up has a last word. -/
def CommandError.announcement : CommandError → String
  | rename (.cancelled message) =>
    "rename cancelled by script " ++ String.ofList (message.toList.flatMap announcedChar) ++ "\n"
  | _ => ""

/-- All that is written about an error. -/
def CommandError.report (error : CommandError) : String :=
  error.announcement ++ "Error: " ++ error.message ++ "\n"

/-! ## Answers -/

/-- The answer to a command that asks for a name only. -/
def nameReport : Option String → String
  | some name => name ++ "\n"
  | none => "(skipped)\n"

/-- The answer to a command that asks how a file would be renamed. -/
def relocationReport : Option Relocation → String
  | some relocation =>
    let folder := relocation.destination.folder
    "filename:    " ++ relocation.filename ++ "\n" ++
      "destination: " ++ folder.name ++ " (" ++ folder.location ++ ")\n" ++
      "subfolder:   " ++ relocation.destination.subfolder ++ "\n" ++
      "path:        " ++ relocation.fullPath ++ "\n"
  | none => "(skipped)\n"

/-- Decodes a request from the content of a file. -/
def Request.ofContent? : Content → Option Request
  | .text value => (Json.read? value).bind Request.ofJson?
  | .binary => none

/-! ## Doing what is asked for -/

/-- The script in the file at a path. -/
def readScript (path : String) : FileTask (Except CommandError String) := do
  match ← FileTask.readFile path with
  | some (.text script) => return .ok script
  | _ => return .error (.unreadableScript path)

/-- The request in the file at a path. -/
def readRequest (path : String) : FileTask (Except CommandError Request) := do
  match ← FileTask.readFile path with
  | some content =>
    match Request.ofContent? content with
    | some request => return .ok request
    | none => return .error .malformedRequest
  | none => return .error (.unreadableRequest path)

/-- The answer to `check`. -/
def checkReport (config : Config) (path script : String) : Except CommandError String :=
  match ((Session.start config).check script).1 with
  | .ok parsed => .ok ("ok: " ++ Text.nat parsed.program.statements.length ++ " statement(s)\n")
  | .error error => .error (.syntaxError path error)

/-- The answer to `rename`. -/
def renameReport (config : Config) (text : String) (kind : Option String) (filenameOnly : Bool)
    (request : Request) : Except CommandError String :=
  let session := Session.start config
  let script : Script := { kind := kind.getD config.interpreterId, text }
  if filenameOnly then
    ((session.filename script request).1.map nameReport).mapError .rename
  else
    ((session.rename script request).1.map relocationReport).mapError .rename

/-- What the command prints with a configuration, or why it fails. -/
def Command.perform (config : Config) : Command → FileTask (Except CommandError String)
  | check path => do
    match ← readScript path with
    | .ok script => return checkReport config path script
    | .error error => return .error error
  | rename path requestPath kind filenameOnly => do
    match ← readScript path with
    | .ok script =>
      match ← readRequest requestPath with
      | .ok request => return renameReport config script kind filenameOnly request
      | .error error => return .error error
    | .error error => return .error error
  | initConfig path => do
    match ← config.save path with
    | .ok _ => return .ok ("Wrote configuration to " ++ Text.quoted path ++ "\n")
    | .error error => return .error (.config error)

/-- What an invocation prints, or why it fails. The configuration is loaded first. -/
def Invocation.perform (invocation : Invocation) : FileTask (Except CommandError String) := do
  match invocation.config with
  | none => invocation.command.perform {}
  | some path =>
    match ← Config.load path with
    | .ok config => invocation.command.perform config
    | .error error => return .error (.config error)

end MediaNaming
