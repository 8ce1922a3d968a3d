import MediaNaming.Storage.Task
import MediaNaming.Text.Search

/-!
# Disks

Files and directories in a tree, paths that lead to them, and what tasks do there.
-/

namespace MediaNaming

/-- The names on the way from the root of a disk. -/
abbrev Place := List String

inductive DiskNode where
  | directory
  | file (content : Content)
deriving DecidableEq

structure Disk where
  /-- All that there is below the root. -/
  nodes : List (Place × DiskNode) := []
  /-- Where paths without a leading slash start. -/
  workingDirectory : Place := []

namespace Disk

/-! ## Places -/

/-- What there is at a place; the root is always there. -/
def node? (disk : Disk) (place : Place) : Option DiskNode :=
  if place.isEmpty then some .directory else disk.nodes.lookup place

def isDirectory (disk : Disk) (place : Place) : Bool :=
  disk.node? place == some .directory

/-- Puts a node at a place, instead of what was there. -/
def put (disk : Disk) (place : Place) (node : DiskNode) : Disk :=
  { disk with nodes := (place, node) :: disk.nodes.filter (·.1 != place) }

def remove (disk : Disk) (place : Place) : Disk :=
  { disk with nodes := disk.nodes.filter (·.1 != place) }

/-- The names of what a directory holds, in no particular order. -/
def namesIn (disk : Disk) (directory : Place) : List String :=
  disk.nodes.filterMap fun (place, _) =>
    if place.dropLast == directory then place.getLast? else none

/-! ## Paths -/

/-- Names have 255 bytes at most, none of which is zero. -/
def isName (name : String) : Bool :=
  name.utf8ByteSize ≤ 255 && !name.toList.contains '\x00'

/-- The place that names lead to from another one, through directories that exist. -/
def follow (disk : Disk) (place : Place) : List String → Option Place
  | [] => some place
  | name :: names =>
    if !disk.isDirectory place || !isName name then none
    else if name == "." || name == "" then follow disk place names
    else if name == ".." then follow disk place.dropLast names
    else follow disk (place ++ [name]) names

/-- The least number of bytes that is too much for a path. -/
def pathLimit : Nat := 4096

/-- The place that a path leads to. There need not be anything. -/
def place? (disk : Disk) (path : String) : Option Place :=
  if path.isEmpty || pathLimit ≤ path.utf8ByteSize then none
  else
    disk.follow (if path.toList.head? == some '/' then [] else disk.workingDirectory)
      (Text.split '/' path)

/-- The content of the file at a path. -/
def content? (disk : Disk) (path : String) : Option Content :=
  match (disk.place? path).bind disk.node? with
  | some (.file content) => some content
  | _ => none

/-! ## Changes -/

/-- Where a path leads to a file or to nothing, but to no directory. -/
def filePlace? (disk : Disk) (path : String) : Option Place :=
  (disk.place? path).filter fun place => !disk.isDirectory place

/-- A change, or nothing if it fails. -/
def change? (disk : Disk) : FileChange → Option Disk
  | .create path => do
    let place ← disk.filePlace? path
    return disk.put place (.file (.text ""))
  | .write path text => do
    let place ← disk.filePlace? path
    return disk.put place (.file (.text text))
  | .sync path => do
    let _ ← disk.filePlace? path
    return disk
  | .move source target => do
    let start ← disk.filePlace? source
    let content ← disk.content? source
    let goal ← disk.filePlace? target
    return (disk.remove start).put goal (.file content)

/-- Makes a directory, and those that it is to stand in. -/
def makeDirectories (disk : Disk) (place : Place) : List String → Disk
  | [] => disk
  | name :: names =>
    let place := place ++ [name]
    if disk.isDirectory place then disk.makeDirectories place names
    else (disk.put place .directory).makeDirectories place names

end Disk

/-- Does a task on a disk. -/
def FileTask.run {α : Type} (disk : Disk) : FileTask α → α × Disk
  | done result => (result, disk)
  | read path next => (next (disk.content? path)).run disk
  | change c next =>
    match disk.change? c with
    | some changed => (next true).run changed
    | none => (next false).run disk

end MediaNaming
