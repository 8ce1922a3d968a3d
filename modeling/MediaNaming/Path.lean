import MediaNaming.Text.Search

/-!
# Paths

Paths as texts whose components are separated by slashes: their file name, its extension, and
joining. Nothing is looked up on a disk.
-/

namespace MediaNaming.Path

/-! ## Components -/

/-- The pieces between the slashes, the empty ones and the single dots left out. -/
def components (path : String) : List String :=
  (Text.split '/' path).filter fun piece => piece != "" && piece != "."

/-- The last component, if it names something: `..` does not. -/
def fileName? (path : String) : Option String :=
  match (components path).getLast? with
  | some ".." => none
  | name => name

def fileName (path : String) : String :=
  (fileName? path).getD ""

/-! ## Extensions -/

/--
Cuts a file name at its last dot into the stem and the extension. A name has no extension if it
has no dot, or only the one that it starts with.
-/
def splitExtension (name : List Char) : List Char × Option (List Char) :=
  match name.reverse.span (· != '.') with
  | (extension, _ :: stem) =>
    if stem.isEmpty then (name, none) else (stem.reverse, some extension.reverse)
  | (_, []) => (name, none)

/-- The extension of the file name behind its dot; nothing if it has none. -/
def extension (path : String) : String :=
  match (splitExtension (fileName path).toList).2 with
  | some extension => String.ofList ('.' :: extension)
  | none => ""

/-- Drops the slashes and single dots behind the file name. -/
def dropTail (path : List Char) : List Char :=
  match path.reverse with
  | '/' :: rest => dropTailRev rest
  | '.' :: '/' :: rest => dropTailRev rest
  | _ => path
where
  /-- The same for a path that is written backwards and goes on with a slash. -/
  dropTailRev : List Char → List Char
    | '/' :: rest => dropTailRev rest
    | '.' :: '/' :: rest => dropTailRev rest
    | rest => rest.reverse

/-- The path without the letters of its extension, whose dot stays, if it ends in them. -/
def cutExtension (path : String) : String :=
  match (splitExtension (fileName path).toList).2 with
  | none => path
  | some extension =>
    if dropTail path.toList == path.toList then
      String.ofList (path.toList.take (path.length - extension.length))
    else
      path

/--
The path with another extension. The old one is cut off first: what then names no file, such as the
`..` that is left of `..x`, gets no extension.
-/
def withExtension (path extension : String) : String :=
  let path := cutExtension path
  match fileName? path with
  | none => path
  | some name =>
    let stem := (splitExtension name.toList).1
    let trunk := dropTail path.toList
    String.ofList
      (trunk.take (trunk.length - name.toList.length) ++ stem ++ '.' :: extension.toList)

/-! ## Joining -/

def isAbsolute (path : String) : Bool :=
  path.toList.head? == some '/'

/--
The path `child` seen from `base`. There is one slash between them, unless `base` is empty or ends
in one; an absolute path is the same from everywhere.
-/
def join (base child : String) : String :=
  if isAbsolute child then child
  else if base.isEmpty || base.toList.getLast? == some '/' then base ++ child
  else base ++ "/" ++ child

example : fileName? "/a/b.mkv/." = some "b.mkv" := by decide +kernel
example : fileName? "/a/.." = none := by decide +kernel
example : extension "/a/..b" = ".b" ∧ extension "/a/.b" = "" ∧ extension "b." = "." := by
  decide +kernel
example : withExtension "a/b.c.json/." "tmp" = "a/b.c.tmp" := by decide +kernel
example : withExtension "b.json" "tmp" = "b.tmp" ∧ withExtension "b." "tmp" = "b.tmp" ∧
    withExtension ".b" "tmp" = ".b.tmp" := by decide +kernel
example : withExtension "a/..x" "tmp" = "a/.." ∧ withExtension "a/..x/" "tmp" = "a/..tmp" := by
  decide +kernel
example : join "/a" "b" = "/a/b" ∧ join "/a/" "b" = "/a/b" ∧ join "/a" "/b" = "/b" := by
  decide +kernel

end MediaNaming.Path
