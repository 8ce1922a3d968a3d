import MediaNaming.Command

/-!
# The program

Does tasks on the files of the machine, and the command line.
-/

namespace MediaNaming

/-- Whether an action ends without an error. -/
def succeeds (action : IO Unit) : IO Bool := do
  match ← action.toBaseIO with
  | .ok _ => return true
  | .error _ => return false

/-- The content of the file at a path, or nothing if it cannot be read. -/
def readContent (path : String) : IO (Option Content) := do
  match ← (IO.FS.readBinFile path).toBaseIO with
  | .ok bytes =>
    match String.fromUTF8? bytes with
    | some value => return some (.text value)
    | none => return some .binary
  | .error _ => return none

/-- Makes a change of files, and says whether it went well. -/
def makeChange : FileChange → IO Bool
  | .create path => succeeds (IO.FS.writeFile path "")
  | .write path text => succeeds (IO.FS.writeFile path text)
  | .sync path => succeeds (IO.FS.withFile path .append fun handle => handle.flush)
  | .move source target => succeeds (IO.FS.rename source target)

/-- Does a task on the files of the machine. -/
def FileTask.perform {α : Type} : FileTask α → IO α
  | done result => pure result
  | read path next => do
    let content ← readContent path
    (next content).perform
  | change c next => do
    let success ← makeChange c
    (next success).perform

def usage : String :=
  "usage: [-c FILE] check SCRIPT\n" ++
    "       [-c FILE] rename SCRIPT REQUEST [--kind KIND] [--filename-only]\n" ++
    "       [-c FILE] init-config PATH\n"

end MediaNaming

open MediaNaming in
def main (words : List String) : IO UInt32 := do
  match Invocation.ofWords? words with
  | none =>
    IO.eprint usage
    return 2
  | some invocation =>
    match ← invocation.perform.perform with
    | .ok answer =>
      IO.print answer
      return 0
    | .error error =>
      IO.eprint error.report
      return 1
