import MediaNaming.Proofs.Renaming.Names
import MediaNaming.Proofs.Renaming.Settling

/-!
# Extensions that are carried over

A new name is a cleaned stem with the extension of the current file behind it, so what the stem says
in front of the extension makes no difference. But a file without an extension gets none, and a dot
in the stem is then taken for one.
-/

namespace MediaNaming

/--
A name that ends in the extension is read back with it. An extension is lost only where the name is
that of the directory above; none is gained where no dot stands behind the first character.
-/
def KeepsExtension (extension name : String) : Prop :=
  if extension = "" then name = ".." ∨ '.' ∉ name.toList.tail else name ≠ ".."

instance (extension name : String) : Decidable (KeepsExtension extension name) :=
  inferInstanceAs (Decidable (if extension = "" then _ ∨ _ else _ ≠ _))

/-! ## New names -/

section Names

variable {config : Config} {request : Request} {buffers : Buffers} {name : String}

/-- The name of the directory itself has no room for an extension. -/
theorem extension_of_dot (h : Program.nameOf config request buffers = some name)
    (hdot : name = ".") : request.file.extension = "" := by
  obtain ⟨stem, hname, hne, -⟩ := nameOf_eq_some h
  have hlength : stem.length + request.file.extension.length = 1 := by
    rw [← String.length_append, ← hname, hdot]
    rfl
  have hstem : stem.length ≠ 0 := by simpa using hne
  have hempty : request.file.extension.length = 0 := by omega
  simpa using hempty

theorem extension_eq_iff (h : Program.nameOf config request buffers = some name) :
    Path.extension name = request.file.extension ↔
      KeepsExtension request.file.extension name := by
  have hpiece := isPiece_of_nameOf h
  unfold KeepsExtension
  split
  · next hempty =>
    rw [hempty]
    exact hpiece.extension_eq_empty_iff
  · next hne =>
    have hdot : name ≠ "." := fun heq => hne (extension_of_dot h heq)
    constructor
    · rintro heq rfl
      exact hne heq.symm
    · intro hup
      exact extension_of_nameOf h hne (hpiece.fileName_eq hdot hup)

/-- An extension with letters is kept, and so is a lone dot where names are made fit for Windows. -/
theorem extension_of_not_keepsExtension (h : Program.nameOf config request buffers = some name)
    (hkeeps : ¬ KeepsExtension request.file.extension name) :
    request.file.extension = "" ∨
      request.file.extension = "." ∧ config.windowsCompatible = false := by
  unfold KeepsExtension at hkeeps
  split at hkeeps
  · next hempty => exact .inl hempty
  · next hne =>
    have hup : name = ".." := Decidable.not_not.mp hkeeps
    obtain ⟨hwindows, hextension⟩ := extension_of_isDots h (.inr hup)
    exact .inr ⟨hextension.resolve_left hne, hwindows⟩

end Names

/-! ## New paths -/

namespace Relocation

variable {config : Config} {request : Request} {relocation : Relocation} {named placed : Buffers}

theorem extension_fullPath
    (hname : Program.nameOf config request named = some relocation.filename)
    (hplace : Placement.resolve placed request.importFolders request.file.path config.policy =
      .ok (some relocation.destination)) (hdot : relocation.filename ≠ ".") :
    Path.extension relocation.fullPath = Path.extension relocation.filename := by
  unfold Path.extension
  rw [fileName_fullPath hname hplace hdot]

/-- The single dot leads to the directory that the file goes to, which may have an extension. -/
theorem extension_fullPath_of_dot
    (hplace : Placement.resolve placed request.importFolders request.file.path config.policy =
      .ok (some relocation.destination)) (hdot : relocation.filename = ".") :
    Path.extension relocation.fullPath = Path.extension
      (Path.join relocation.destination.folder.location relocation.destination.subfolder) := by
  have hsubfolder := Placement.isAbsolute_subfolder hplace
  have hrelative : Path.isAbsolute (Path.join relocation.destination.subfolder ".") = false := by
    rw [Path.isAbsolute_join (by decide), hsubfolder]
  have hcomponents : Path.components relocation.fullPath = Path.components
      (Path.join relocation.destination.folder.location relocation.destination.subfolder) := by
    have hnone : Path.components "." = [] := by decide
    rw [fullPath, relativePath, hdot, Path.components_join hrelative,
      Path.components_join (by decide), hnone, List.append_nil, Path.components_join hsubfolder]
  unfold Path.extension Path.fileName Path.fileName?
  rw [hcomponents]

end Relocation

namespace Session

/--
A new name ends in the extension of the current file and is read back with it, whatever dots its
stem has, unless it is two dots. A file without an extension stays without one just when no dot of
the stem is taken for the start of one. The new path has the extension that the name has, but for
the single dot, which names the directory.
-/
theorem extension_is_carried_over (config : Config) (session : Session)
    (hsession : Reachable config session) (script : Script) (request : Request) :
    (∀ name, (session.filename script request).1 = .ok (some name) →
      (∃ stem, stem ≠ "" ∧ name = stem ++ request.file.extension) ∧
      (Path.extension name = request.file.extension ↔
        KeepsExtension request.file.extension name) ∧
      (¬ KeepsExtension request.file.extension name → request.file.extension = "" ∨
        request.file.extension = "." ∧ config.windowsCompatible = false)) ∧
    ∀ relocation, (session.rename script request).1 = .ok (some relocation) →
      (relocation.filename ≠ "." →
        (Path.extension relocation.fullPath = request.file.extension ↔
          KeepsExtension request.file.extension relocation.filename)) ∧
      (relocation.filename = "." →
        request.file.extension = "" ∧ config.windowsCompatible = false ∧
        Path.extension relocation.fullPath = Path.extension
          (Path.join relocation.destination.folder.location
            relocation.destination.subfolder)) := by
  constructor
  · intro name hname
    obtain ⟨program, -, hfilename⟩ := parse_of_ask_ok hsession hname
    obtain ⟨buffers, -, hnamed⟩ := Program.completed_of_filename hfilename
    obtain ⟨stem, hstem, hne, -⟩ := nameOf_eq_some hnamed
    exact ⟨⟨stem, hne, hstem⟩, extension_eq_iff hnamed, extension_of_not_keepsExtension hnamed⟩
  · intro relocation hrename
    obtain ⟨program, -, hrelocation⟩ := parse_of_ask_ok hsession hrename
    obtain ⟨named, placed, -, -, hname, hplace⟩ := Program.halves_of_relocation hrelocation
    constructor
    · intro hdot
      rw [Relocation.extension_fullPath hname hplace hdot]
      exact extension_eq_iff hname
    · intro hdot
      exact ⟨extension_of_dot hname hdot, (extension_of_isDots hname (.inl hdot)).1,
        Relocation.extension_fullPath_of_dot hplace hdot⟩

/-! ### Stems with dots -/

/-- A script that puts a file with the given stem into a folder of the library. -/
def stemScript (stem subfolder : String) : Script :=
  ⟨"RenameScript", "destination set 'Library' ; subfolder set '" ++ subfolder ++ "' ; add '" ++
    stem ++ "' ; "⟩

/-- What the script is read as. -/
def stemProgram (stem subfolder : String) : Program :=
  ⟨[.set .destination [.text "Library"], .set .subfolder [.text subfolder],
    .add .unnamed [.text stem]]⟩

/--
A dot in the stem is taken for the start of an extension if the file has none. A stem of one dot
makes names that lead to directories: with a lone dot as the extension, which is lost, and without
any, where that of the directory is taken for it.
-/
theorem extension_can_change :
    let bare := libraryRequest "/in/README"
    let dotted := libraryRequest "/in/b."
    let relocation : Relocation := ⟨".", library, "v1.5"⟩
    (((start {}).filename (stemScript "Ep. 1" "Show") bare).1 = .ok (some "Ep. 1") ∧
      bare.file.extension = "" ∧ Path.extension "Ep. 1" = ". 1") ∧
    (((start {}).filename (stemScript "." "Show") dotted).1 = .ok (some "..") ∧
      dotted.file.extension = "." ∧ Path.extension ".." = "") ∧
    ((start {}).rename (stemScript "." "v1.5") bare).1 = .ok (some relocation) ∧
      bare.file.extension = "" ∧ Path.extension relocation.fullPath = ".5" := by
  intro bare dotted relocation
  refine ⟨⟨?_, by decide +kernel, by decide +kernel⟩, ⟨?_, by decide +kernel, by decide +kernel⟩,
    ?_, by decide +kernel, by decide +kernel⟩
  · refine (ask_print {} (stemProgram "Ep. 1" "Show") _ Program.filename
      (by decide +kernel) (by decide +kernel) (by decide +kernel)).trans ?_
    decide +kernel
  · refine (ask_print {} (stemProgram "." "Show") _ Program.filename
      (by decide +kernel) (by decide +kernel) (by decide +kernel)).trans ?_
    decide +kernel
  · refine (rename_print {} (stemProgram "." "v1.5") _
      (by decide +kernel) (by decide +kernel) (by decide +kernel)).trans ?_
    decide +kernel

/-- A stem with a dot in front of the extension, and one that starts with the only dot. -/
theorem extension_is_carried_over_of_dots :
    let bare := libraryRequest "/in/README"
    let dotted := libraryRequest "/in/a.b.mkv"
    let relocation : Relocation := ⟨"v1.5.mkv", library, "Show"⟩
    (((start {}).filename (stemScript "v1.5" "Show") dotted).1 = .ok (some "v1.5.mkv") ∧
      Path.extension "v1.5.mkv" = dotted.file.extension) ∧
    (((start {}).rename (stemScript "v1.5" "Show") dotted).1 = .ok (some relocation) ∧
      Path.extension relocation.fullPath = dotted.file.extension) ∧
    ((start {}).filename (stemScript ".x" "Show") bare).1 = .ok (some ".x") ∧
      Path.extension ".x" = bare.file.extension := by
  intro bare dotted relocation
  have hname : ((start {}).filename (stemScript "v1.5" "Show") dotted).1 =
      .ok (some "v1.5.mkv") := by
    refine (ask_print {} (stemProgram "v1.5" "Show") _ Program.filename
      (by decide +kernel) (by decide +kernel) (by decide +kernel)).trans ?_
    decide +kernel
  have hrename : ((start {}).rename (stemScript "v1.5" "Show") dotted).1 =
      .ok (some relocation) := by
    refine (rename_print {} (stemProgram "v1.5" "Show") _
      (by decide +kernel) (by decide +kernel) (by decide +kernel)).trans ?_
    decide +kernel
  have hhidden : ((start {}).filename (stemScript ".x" "Show") bare).1 =
      .ok (some ".x") := by
    refine (ask_print {} (stemProgram ".x" "Show") _ Program.filename
      (by decide +kernel) (by decide +kernel) (by decide +kernel)).trans ?_
    decide +kernel
  have hcarried := extension_is_carried_over {} _ .start (stemScript "v1.5" "Show") dotted
  have hbare := extension_is_carried_over {} _ .start (stemScript ".x" "Show") bare
  refine ⟨⟨hname, ?_⟩, ⟨hrename, ?_⟩, hhidden, ?_⟩
  · exact (hcarried.1 _ hname).2.1.mpr (by decide +kernel)
  · exact ((hcarried.2 _ hrename).1 (by decide)).mpr (by decide +kernel)
  · exact (hbare.1 _ hhidden).2.1.mpr (by decide +kernel)

end Session

end MediaNaming
