/-!
# Tasks on files

What is done with files, step by step, without saying where the files are. A task reads files and
changes them, and goes on as each step turns out.
-/

namespace MediaNaming

/-- What a file holds: a text, or bytes that are no text. -/
inductive Content where
  | text (value : String)
  | binary
deriving DecidableEq

/-- A change of files. -/
inductive FileChange where
  /-- Makes an empty file, or empties the one that is there. -/
  | create (path : String)
  /-- Puts a text into a file that was just created. -/
  | write (path text : String)
  /-- Waits until the file is safe. -/
  | sync (path : String)
  /-- Gives a file another path, in place of a file that is there. -/
  | move (source target : String)
deriving DecidableEq

/-- Steps on files that end in a result. -/
inductive FileTask (α : Type) where
  | done (result : α)
  /-- Reads a file, and goes on with what it holds, or with nothing if it cannot be read. -/
  | read (path : String) (next : Option Content → FileTask α)
  /-- Changes files, and goes on with whether that went well. -/
  | change (change : FileChange) (next : Bool → FileTask α)

namespace FileTask

def bind {α β : Type} : FileTask α → (α → FileTask β) → FileTask β
  | done result, f => f result
  | read path next, f => read path fun content => (next content).bind f
  | change c next, f => change c fun success => (next success).bind f

instance : Monad FileTask where
  pure := done
  bind := bind

/-- The content of a file, or nothing. -/
def readFile (path : String) : FileTask (Option Content) :=
  read path done

/-- Changes files in order, up to the first change that fails, which is the result. -/
def changeAll : List FileChange → FileTask (Option FileChange)
  | [] => done none
  | c :: cs => change c fun success => if success then changeAll cs else done (some c)

end FileTask

end MediaNaming
