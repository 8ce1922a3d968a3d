import MediaNaming.Proofs.Evaluation.Lookups
import MediaNaming.Proofs.Paths.Extensions
import MediaNaming.Proofs.Renaming.Containment
import MediaNaming.Proofs.Text.Trimming

/-!
# Renaming settles

A file that has been renamed is where it belongs: asked again, the script gives it the same name and
place, as long as it does not itself look at where the file is or keep parts of its directory.
-/

namespace MediaNaming

/-! ## Moved files -/

/-- The request for the same file when it is somewhere else. -/
def Request.movedTo (request : Request) (path : String) : Request :=
  { request with file := { request.file with path } }

section Moved

variable {request : Request} {path : String}

/-- Only three labels look at the path, and one of these only at its extension. -/
theorem value_movedTo (hextension : Path.extension path = request.file.extension) {l : Label}
    (hname : l ≠ .text .oldFilename) (hsource : l ≠ .flag .inDropSource) :
    (request.movedTo path).value l = request.value l := by
  cases l with
  | text l =>
    cases l with
    | oldFilename => exact absurd rfl hname
    | extension =>
      show Value.text (String.ofList ((Path.extension path).toList.dropWhile (· == '.'))) = _
      rw [hextension]
      rfl
    | _ => rfl
  | number l => cases l <;> rfl
  | flag l =>
    cases l with
    | inDropSource => exact absurd rfl hsource
    | _ => rfl
  | collection l => cases l <;> rfl

theorem agreeOn_movedTo (hextension : Path.extension path = request.file.extension)
    {lookups : List Lookup} (hname : .label (.text .oldFilename) ∉ lookups)
    (hsource : .label (.flag .inDropSource) ∉ lookups) :
    Request.AgreeOn lookups (request.movedTo path) request := by
  intro lookup hlookup
  cases lookup with
  | label l =>
    refine value_movedTo hextension ?_ ?_
    · rintro rfl
      exact hname hlookup
    · rintro rfl
      exact hsource hlookup
  | episodes =>
    intro width
    rfl

end Moved

/-! ## Names that are read back -/

section Names

variable {config : Config} {request : Request} {buffers : Buffers} {name : String}

/-- A name with an extension to speak of is no dots. -/
theorem isName_of_nameOf (h : Program.nameOf config request buffers = some name)
    (hlong : 1 < request.file.extension.length) : Path.IsName name := by
  obtain ⟨hne, hslash⟩ := isPiece_of_nameOf h
  refine ⟨hne, hslash, fun hdots => ?_⟩
  rcases (extension_of_isDots h hdots).2 with hempty | hdot
  · rw [hempty] at hlong
    exact absurd hlong (by decide)
  · rw [hdot] at hlong
    exact absurd hlong (by decide)

/-- The new file has the extension that the old one had. -/
theorem extension_of_nameOf (h : Program.nameOf config request buffers = some name)
    (hextension : request.file.extension ≠ "") {path : String}
    (hpath : Path.fileName path = name) : Path.extension path = request.file.extension := by
  obtain ⟨stem, hname, hstem, -⟩ := nameOf_eq_some h
  exact Path.extension_of_fileName (hpath.trans hname) hstem hextension

/-- The name depends on the file only by its extension. -/
theorem nameOf_movedTo {path : String} (hextension : Path.extension path = request.file.extension)
    (config : Config) (buffers : Buffers) :
    Program.nameOf config (request.movedTo path) buffers =
      Program.nameOf config request buffers := by
  have hmoved : (request.movedTo path).file.extension = request.file.extension := hextension
  unfold Program.nameOf
  rw [hmoved]

end Names

/-! ## Places that do not depend on the file -/

namespace Placement

variable {buffers : Buffers} {folders : List ImportFolder} {policy : SanitizePolicy}

/--
Where a folder is asked for and the subfolder is written without wildcards, the place is the same
wherever the file is now.
-/
theorem resolve_of_plain (hdestination : Text.isBlankText buffers.destination = false)
    (hwritten : buffers.subfolderWritten = true)
    (hplain : ∀ part ∈ Text.split Marker.separator buffers.subfolder, isWildcard part = false)
    (path other : String) :
    resolve buffers folders path policy = resolve buffers folders other policy := by
  have hname : (Text.trim buffers.destination).isEmpty = false :=
    (Text.isEmpty_trim _).trans hdestination
  have hfolder : destinationFolder folders path (Text.trim buffers.destination) =
      destinationFolder folders other (Text.trim buffers.destination) := by
    unfold destinationFolder
    rw [hname, if_neg Bool.false_ne_true, if_neg Bool.false_ne_true]
  have hsegments : ∀ current, segments policy current buffers.subfolder = .ok _ :=
    fun current => segmentsFrom_of_plain hplain
  unfold resolve
  simp only [hname, hwritten, hfolder, hsegments, ↓reduceIte]

end Placement

/-! ## Renamed files -/

namespace Relocation

variable {config : Config} {request : Request} {relocation : Relocation} {named placed : Buffers}

/-- The new path has the file name that the new name has by itself. -/
theorem fileName_fullPath
    (hname : Program.nameOf config request named = some relocation.filename)
    (hplace : Placement.resolve placed request.importFolders request.file.path config.policy =
      .ok (some relocation.destination)) (hdot : relocation.filename ≠ ".") :
    Path.fileName relocation.fullPath = Path.fileName relocation.filename :=
  (isPiece_of_nameOf hname).fileName_join_join hdot (Placement.isAbsolute_subfolder hplace) _

end Relocation

namespace Program

variable {program : Program} {config : Config} {request : Request} {relocation : Relocation}

/-- Both passes end for the renamed file as they did before. -/
theorem relocation_movedTo (hlong : 1 < request.file.extension.length)
    (hname : .label (.text .oldFilename) ∉ program.lookups)
    (hsource : .label (.flag .inDropSource) ∉ program.lookups)
    (hrelocation : program.relocation config request = .ok (some relocation))
    {placed : Buffers} (hplaced : program.run .placement request = .ok (.completed placed))
    (hdestination : Text.isBlankText placed.destination = false)
    (hwritten : placed.subfolderWritten = true)
    (hplain : ∀ part ∈ Text.split Marker.separator placed.subfolder,
      Placement.isWildcard part = false) :
    program.relocation config (request.movedTo relocation.fullPath) = .ok (some relocation) := by
  obtain ⟨named, found, hnamed, hfound, hfilename, hplace⟩ := halves_of_relocation hrelocation
  obtain rfl : placed = found := by
    rw [hplaced] at hfound
    cases hfound
    rfl
  -- The new path reads back as the new name, and so has the extension of the old one.
  have hfile := isName_of_nameOf hfilename hlong
  have hread : Path.fileName relocation.fullPath = relocation.filename :=
    (Relocation.fileName_fullPath hfilename hplace hfile.ne_dot).trans hfile.fileName_eq
  have hne : request.file.extension ≠ "" := by
    intro hempty
    rw [hempty] at hlong
    exact absurd hlong (by decide)
  have hextension := extension_of_nameOf hfilename hne hread
  have hagree := agreeOn_movedTo hextension hname hsource
  have hfirst : program.filename config (request.movedTo relocation.fullPath) = .ok _ :=
    filename_of_completed ((program_agree .filename program hagree).trans hnamed)
  have hsecond : program.destination config (request.movedTo relocation.fullPath) = _ :=
    destination_of_completed ((program_agree .placement program hagree).trans hplaced)
  rw [nameOf_movedTo hextension, hfilename] at hfirst
  rw [Placement.resolve_of_plain hdestination hwritten hplain _ request.file.path] at hsecond
  have hfolders : (request.movedTo relocation.fullPath).importFolders = request.importFolders :=
    rfl
  rw [hfolders, hplace] at hsecond
  rw [Program.relocation, hfirst, ok_bind]
  dsimp only
  rw [hsecond]
  rfl

end Program

namespace Session

/--
A file that was renamed by a script that asks for a folder, writes the subfolder without wildcards
and looks neither at the old name nor at whether the file is in a source folder keeps its new name
and place when the script is run on it again; if its extension is a dot with something behind it.
The session may be any other one with the same configuration.
-/
theorem rename_settles (config : Config) (before after : Session)
    (hbefore : Reachable config before) (hafter : Reachable config after) (script : Script)
    (request : Request) (program : Program) (placed : Buffers) (relocation : Relocation)
    (hextension : ∃ c cs, request.file.extension.toList = '.' :: c :: cs)
    (hparse : Program.parse script.text = .ok program)
    (hname : .label (.text .oldFilename) ∉ program.lookups)
    (hsource : .label (.flag .inDropSource) ∉ program.lookups)
    (hrename : (before.rename script request).1 = .ok (some relocation))
    (hplaced : program.run .placement request = .ok (.completed placed))
    (hdestination : Text.isBlankText placed.destination = false)
    (hwritten : placed.subfolderWritten = true)
    (hplain : ∀ part ∈ Text.split Marker.separator placed.subfolder,
      Placement.isWildcard part = false) :
    (after.rename script (request.movedTo relocation.fullPath)).1 = .ok (some relocation) := by
  have hlong : 1 < request.file.extension.length := by
    obtain ⟨c, cs, hchars⟩ := hextension
    rw [← String.length_toList, hchars]
    simp
  have hanswer : (before.rename script request).1 = answer config script request _ :=
    ask_eq_answer hbefore script request Program.relocation
  have hagain : (after.rename script (request.movedTo relocation.fullPath)).1 =
      answer config script (request.movedTo relocation.fullPath) _ :=
    ask_eq_answer hafter script (request.movedTo relocation.fullPath) Program.relocation
  -- Nothing that a script can be rejected for has to do with the path.
  have hrejection : rejection? config script (request.movedTo relocation.fullPath) =
      rejection? config script request := rfl
  rw [hanswer] at hrename
  cases haccepted : rejection? config script request with
  | some reason =>
    rw [answer, haccepted] at hrename
    cases hrename
  | none =>
    rw [answer_of_parse haccepted hparse] at hrename
    rw [hagain, answer_of_parse (hrejection.trans haccepted) hparse]
    exact Program.relocation_movedTo hlong hname hsource hrename hplaced hdestination hwritten
      hplain

/-- A script that writes the extension into the stem, which then has dots of its own. -/
theorem rename_settles_of_dots :
    let script : Script := ⟨"RenameScript", "destination set 'library' ; subfolder set 'Shows/' " ++
      "AnimeTitlePreferred ; add AnimeTitlePreferred '.' Extension ; "⟩
    let relocation : Relocation := ⟨"A.mkv.mkv", library, "Shows/A"⟩
    relocation.fullPath = "/lib/Shows/A/A.mkv.mkv" ∧
      ((start {}).rename script (libraryRequest "/in/a.b.mkv")).1 = .ok (some relocation) ∧
      ((start {}).rename script
        ((libraryRequest "/in/a.b.mkv").movedTo relocation.fullPath)).1 =
          .ok (some relocation) := by
  intro script relocation
  let title : Expr := .label (.text .animeTitlePreferred)
  let program : Program := ⟨[
    .set .destination [.text "library"],
    .set .subfolder [.text "Shows/", title],
    .add .unnamed [title, .text ".", .label (.text .extension)]]⟩
  have htext : program.print = script.text := by decide +kernel
  have hprogram : program.WellFormed := by decide +kernel
  have hparse : Program.parse script.text = .ok program := by
    rw [← htext]
    exact program.parse_print hprogram
  have hrename : ((start {}).rename script (libraryRequest "/in/a.b.mkv")).1 =
      .ok (some relocation) := by
    refine (rename_print {} program _ htext hprogram (by decide +kernel)).trans ?_
    decide +kernel
  have hplaced : program.run .placement (libraryRequest "/in/a.b.mkv") =
      .ok (.completed ⟨"", "library", "Shows\uE000A", true, true⟩) := by decide +kernel
  refine ⟨by decide +kernel, hrename, ?_⟩
  exact rename_settles {} _ _ .start .start script _ program _ relocation
    ⟨'m', "kv".toList, by decide +kernel⟩ hparse (by decide +kernel) (by decide +kernel) hrename
    hplaced (by decide +kernel) rfl (by decide +kernel)

end Session

end MediaNaming
