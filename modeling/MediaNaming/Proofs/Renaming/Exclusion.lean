import MediaNaming.Proofs.Placement.Depths
import MediaNaming.Proofs.Renaming.Settling

/-!
# Excluded folders

No file is moved to an excluded folder, and none stays there for want of a better one. But the
directories that a file keeps are counted from the deepest folder above it, be it excluded or not.
So excluded folders are ignored as long as others that lie as deep are above the file.
-/

namespace MediaNaming

def ImportFolder.isExcluded (folder : ImportFolder) : Bool :=
  folder.role.contains .excluded

/-- The folders that are not excluded. -/
def keptFolders (folders : List ImportFolder) : List ImportFolder :=
  folders.filter fun folder => !folder.isExcluded

theorem mem_keptFolders {folder : ImportFolder} {folders : List ImportFolder} :
    folder ∈ keptFolders folders ↔ folder ∈ folders ∧ folder.isExcluded = false := by
  simp [keptFolders]

/-! ## Places without excluded folders -/

namespace Placement

variable {folders : List ImportFolder} {path : String}

/-! ### The folder -/

theorem filter_isDestination_keptFolders (folders : List ImportFolder) :
    (keptFolders folders).filter ImportFolder.isDestination =
      folders.filter ImportFolder.isDestination := by
  unfold keptFolders
  rw [List.filter_filter]
  refine List.filter_congr fun folder _ => ?_
  simp [ImportFolder.isDestination, ImportFolder.isExcluded]

theorem destinationFolder_keptFolders (folders : List ImportFolder) (path name : String) :
    destinationFolder (keptFolders folders) path name = destinationFolder folders path name := by
  unfold destinationFolder currentDestination? findDestination?
  rw [filter_isDestination_keptFolders]

/-! ### The segments -/

/-- Where an excluded folder is above the path, so is another one that lies as deep. -/
def Covers (folders : List ImportFolder) (path : String) : Prop :=
  ∀ folder ∈ folders, folder.isExcluded = true → folder.parts <+: locationParts path →
    ∃ other ∈ folders, other.isExcluded = false ∧ other.parts <+: locationParts path ∧
      folder.parts.length ≤ other.parts.length

/-- The deepest folders may be different ones, but they lie as deep. -/
theorem currentSegments_keptFolders (h : Covers folders path) :
    currentSegments (keptFolders folders) path = currentSegments folders path := by
  have hkept : ReachAsDeep path (keptFolders folders) folders :=
    .of_subset (List.filter_sublist.subset)
  refine currentSegments_congr (map_parts_deepestAbove? hkept fun folder hmem habove => ?_)
  -- A folder is its own cover unless it is excluded.
  cases hexcluded : folder.isExcluded with
  | true =>
    obtain ⟨cover, hcover, hkept, hcoverAbove, hlength⟩ :=
      h folder hmem hexcluded (isAbove_iff.mp habove)
    exact ⟨cover, mem_keptFolders.mpr ⟨hcover, hkept⟩, isAbove_iff.mpr hcoverAbove, hlength⟩
  | false =>
    exact ⟨folder, mem_keptFolders.mpr ⟨hmem, hexcluded⟩, habove, Nat.le_refl _⟩

/-! ### The place -/

/-- Where there is a folder for the file, it has the same directories if none is excluded. -/
def KeepsSegments (folders : List ImportFolder) (path : String) : Prop :=
  ∀ name folder, destinationFolder folders path (Text.trim name) = .ok folder →
    currentSegments (keptFolders folders) path = currentSegments folders path

/-- The excluded folders count for nothing but the segments that the file has now. -/
theorem resolve_keptFolders (h : KeepsSegments folders path) (buffers : Buffers)
    (policy : SanitizePolicy) :
    resolve buffers (keptFolders folders) path policy = resolve buffers folders path policy := by
  cases hasks : buffers.asksNothing with
  | true => rw [resolve_of_asksNothing hasks, resolve_of_asksNothing hasks]
  | false =>
    rw [resolve_of_asks hasks, resolve_of_asks hasks, destinationFolder_keptFolders]
    cases hfolder : destinationFolder folders path (Text.trim buffers.destination) with
    | error error => rfl
    | ok folder => rw [h _ _ hfolder]

/-- Different segments lead to different places. -/
theorem placeBelow_inj {folder : ImportFolder} {left right : List String}
    (hleft : ∀ piece ∈ left, '/' ∉ piece.toList) (hright : ∀ piece ∈ right, '/' ∉ piece.toList)
    (h : placeBelow folder left = placeBelow folder right) : left = right := by
  unfold placeBelow at h
  cases left with
  | nil =>
    cases right with
    | nil => rfl
    | cons => cases h
  | cons first left =>
    cases right with
    | nil => cases h
    | cons other right =>
      simp only [List.isEmpty_cons, Bool.false_eq_true, ↓reduceIte, Except.ok.injEq,
        Option.some.injEq, Destination.mk.injEq, true_and] at h
      rw [← Text.split_slash_intercalate (List.cons_ne_nil _ _) hleft, h,
        Text.split_slash_intercalate (List.cons_ne_nil _ _) hright]

end Placement

/-! ## Requests without excluded folders -/

/-- The request, without the folders that are excluded. -/
def Request.withoutExcluded (request : Request) : Request :=
  { request with importFolders := keptFolders request.importFolders }

/-- No label of the program looks at the list of folders. -/
structure Program.OverlooksFolders (program : Program) : Prop where
  folders : .label (.collection .importFolders) ∉ program.lookups
  source : .label (.flag .inDropSource) ∉ program.lookups

section Values

variable {request : Request}

theorem value_withoutExcluded {l : Label} (hfolders : l ≠ .collection .importFolders)
    (hsource : l ≠ .flag .inDropSource) :
    request.withoutExcluded.value l = request.value l := by
  cases l with
  | text l => cases l <;> rfl
  | number l => cases l <;> rfl
  | flag l =>
    cases l with
    | inDropSource => exact absurd rfl hsource
    | _ => rfl
  | collection l =>
    cases l with
    | importFolders => exact absurd rfl hfolders
    | _ => rfl

theorem agreeOn_withoutExcluded {program : Program} (h : program.OverlooksFolders) :
    Request.AgreeOn program.lookups request.withoutExcluded request := by
  intro lookup hlookup
  cases lookup with
  | label l =>
    refine value_withoutExcluded ?_ ?_
    · rintro rfl
      exact h.folders hlookup
    · rintro rfl
      exact h.source hlookup
  | episodes =>
    intro width
    rfl

end Values

/-! ## Programs that overlook the folders -/

namespace Program

variable {program : Program} {request : Request}

theorem buffers?_withoutExcluded (h : program.OverlooksFolders) (pass : Pass)
    (request : Request) :
    program.buffers? pass request.withoutExcluded = program.buffers? pass request := by
  unfold buffers?
  rw [program_agree pass program (agreeOn_withoutExcluded h)]

theorem nameOf_withoutExcluded (config : Config) (request : Request) (buffers : Buffers) :
    nameOf config request.withoutExcluded buffers = nameOf config request buffers := by
  have hfile : request.withoutExcluded.file = request.file := rfl
  unfold nameOf
  rw [hfile]

theorem filename_withoutExcluded (h : program.OverlooksFolders) (config : Config)
    (request : Request) :
    program.filename config request.withoutExcluded = program.filename config request := by
  unfold filename
  rw [buffers?_withoutExcluded h]
  refine bind_congr fun buffers => ?_
  cases buffers with
  | none => rfl
  | some buffers => exact congrArg Except.ok (nameOf_withoutExcluded config request buffers)

theorem destination_withoutExcluded (h : program.OverlooksFolders) (config : Config)
    (hkeeps : Placement.KeepsSegments request.importFolders request.file.path) :
    program.destination config request.withoutExcluded = program.destination config request := by
  unfold destination
  rw [buffers?_withoutExcluded h]
  refine bind_congr fun buffers => ?_
  cases buffers with
  | none => rfl
  | some buffers =>
    exact congrArg (Except.mapError _) (Placement.resolve_keptFolders hkeeps buffers config.policy)

theorem relocation_withoutExcluded (h : program.OverlooksFolders) (config : Config)
    (hkeeps : Placement.KeepsSegments request.importFolders request.file.path) :
    program.relocation config request.withoutExcluded = program.relocation config request := by
  unfold relocation
  rw [filename_withoutExcluded h, destination_withoutExcluded h config hkeeps]

end Program

/-! ## Sessions -/

/-- Scripts that cannot be read look at nothing. -/
def Script.OverlooksFolders (script : Script) : Prop :=
  ∀ program, Program.parse script.text = .ok program → program.OverlooksFolders

namespace Session

/--
Excluded folders are ignored: without them the answers about the place are the same, to all scripts
that do not themselves look at the folders.
-/
def IgnoresExcluded (config : Config) (request : Request) : Prop :=
  ∀ before after, Reachable config before → Reachable config after →
    ∀ script : Script, script.OverlooksFolders →
      (before.destination script request).1 =
          (after.destination script request.withoutExcluded).1 ∧
        (before.rename script request).1 = (after.rename script request.withoutExcluded).1

section Answers

variable {config : Config} {request : Request}

/-- Whether a script is run has nothing to do with the folders. -/
theorem rejection?_withoutExcluded (script : Script) :
    rejection? config script request.withoutExcluded = rejection? config script request :=
  rfl

theorem answer_withoutExcluded {α : Type} {script : Script}
    {question : Program → Config → Request → Except RenameError α}
    (h : rejection? config script request = none →
      ∀ program, Program.parse script.text = .ok program →
        question program config request.withoutExcluded = question program config request) :
    answer config script request.withoutExcluded question =
      answer config script request question := by
  unfold answer
  rw [rejection?_withoutExcluded]
  cases haccepted : rejection? config script request with
  | some reason => rfl
  | none =>
    cases hparse : Program.parse script.text with
    | error error => rfl
    | ok program => exact h haccepted program hparse

/-- A script is only run for a request that tells of an anime and an episode. -/
theorem listed_of_accepted {script : Script} (h : rejection? config script request = none) :
    request.anime ≠ [] ∧ request.episodes ≠ [] := by
  unfold rejection? at h
  split at h
  · cases h
  · split at h
    · cases h
    · split at h
      · cases h
      · next hanime =>
        split at h
        · cases h
        · next hepisodes => exact ⟨by simpa using hanime, by simpa using hepisodes⟩

end Answers

/-! ### A script that only asks for a folder -/

/-- Asks for a folder by name and keeps the segments. -/
def folderProgram (name : String) : Program :=
  ⟨[.set .destination [.text name]]⟩

def folderScript (config : Config) (name : String) : Script :=
  ⟨config.interpreterId, (folderProgram name).print⟩

theorem parse_folderScript (config : Config) (name : String) :
    Program.parse (folderScript config name).text = .ok (folderProgram name) :=
  Program.parse_print _ rfl

theorem overlooksFolders_folderScript (config : Config) (name : String) :
    (folderScript config name).OverlooksFolders := by
  intro program hparse
  rw [parse_folderScript] at hparse
  cases hparse
  exact ⟨List.not_mem_nil, List.not_mem_nil⟩

section FolderScripts

variable {config : Config} {request : Request} {name : String} {folder : ImportFolder}

theorem rejection?_folderScript (hanime : request.anime ≠ []) (hepisodes : request.episodes ≠ []) :
    rejection? config (folderScript config name) request = none := by
  have htext : Text.isBlankText (folderProgram name).print = false := by
    rw [Text.isBlankText, Program.print, String.toList_ofList]
    exact Bool.and_eq_false_iff.mpr (.inl (by decide))
  simp [rejection?, htext, hanime, hepisodes, folderScript]

theorem eq_of_mapError_placement {α : Type} {left right : Except PlacementError α}
    (h : left.mapError RenameError.placement = right.mapError RenameError.placement) :
    left = right := by
  cases left <;> cases right <;> simp_all [Except.mapError]

/-- If there is the folder, the place is the one that the segments lead to. -/
theorem destination_folderProgram
    (hfolder : Placement.destinationFolder request.importFolders request.file.path
      (Text.trim name) = .ok folder) :
    (folderProgram name).destination config request =
      (Placement.placeBelow folder (Placement.currentSegments request.importFolders
        request.file.path)).mapError .placement := by
  have hrun : (folderProgram name).run .placement request =
      .ok (.completed { destination := name, destinationWritten := true }) := by
    rw [folderProgram, Program.run, Statement.runAll, Statement.run, Placement.joined_singleton]
    rfl
  have hasks : Buffers.asksNothing { destination := name, destinationWritten := true } = false :=
    Buffers.asksNothing_eq_false_iff.mpr (.inr (.inl rfl))
  rw [Program.destination_of_completed hrun, Placement.resolve_of_asks hasks, hfolder]
  rfl

theorem destination_folderScript (hanime : request.anime ≠ []) (hepisodes : request.episodes ≠ [])
    (hfolder : Placement.destinationFolder request.importFolders request.file.path
      (Text.trim name) = .ok folder) :
    ((start config).destination (folderScript config name) request).1 =
      (Placement.placeBelow folder (Placement.currentSegments request.importFolders
        request.file.path)).mapError .placement := by
  have hanswer : ((start config).destination (folderScript config name) request).1 =
      answer config (folderScript config name) request _ :=
    ask_eq_answer .start _ request Program.destination
  rw [hanswer, answer_of_parse (rejection?_folderScript hanime hepisodes) (parse_folderScript _ _),
    destination_folderProgram hfolder]

theorem keepsSegments_of_ignoresExcluded (h : IgnoresExcluded config request)
    (hanime : request.anime ≠ []) (hepisodes : request.episodes ≠ []) :
    Placement.KeepsSegments request.importFolders request.file.path := by
  intro name folder hfolder
  obtain ⟨hsame, -⟩ := h _ _ .start .start (folderScript config name)
    (overlooksFolders_folderScript config name)
  -- The folder is the same for both requests, so the segments have to be the same as well.
  have hkept : Placement.destinationFolder request.withoutExcluded.importFolders
      request.withoutExcluded.file.path (Text.trim name) = .ok folder :=
    (Placement.destinationFolder_keptFolders _ _ _).trans hfolder
  have hall : ((start config).destination (folderScript config name) request).1 = _ :=
    destination_folderScript hanime hepisodes hfolder
  have hwithout :
      ((start config).destination (folderScript config name) request.withoutExcluded).1 = _ :=
    destination_folderScript hanime hepisodes hkept
  rw [hall, hwithout] at hsame
  have hnames : ∀ folders, ∀ piece ∈ Placement.currentSegments folders request.file.path,
      '/' ∉ piece.toList := fun folders piece hpiece =>
    (isPiece_of_mem_locationParts (Placement.mem_currentSegments hpiece)).slash_not_mem
  exact (Placement.placeBelow_inj (hnames _) (hnames _) (eq_of_mapError_placement hsame)).symm

/-! ### When excluded folders are ignored -/

theorem ignoresExcluded_of_keepsSegments
    (h : request.anime ≠ [] → request.episodes ≠ [] →
      Placement.KeepsSegments request.importFolders request.file.path) :
    IgnoresExcluded config request := by
  intro before after hbefore hafter script hscript
  have hanswers : ∀ {α : Type} (question : Program → Config → Request → Except RenameError α),
      (∀ program : Program, program.OverlooksFolders →
        Placement.KeepsSegments request.importFolders request.file.path →
        question program config request.withoutExcluded = question program config request) →
      (before.ask script request question).1 =
        (after.ask script request.withoutExcluded question).1 := by
    intro α question hquestion
    rw [ask_eq_answer hbefore, ask_eq_answer hafter]
    refine (answer_withoutExcluded fun haccepted program hparse => ?_).symm
    obtain ⟨hanime, hepisodes⟩ := listed_of_accepted haccepted
    exact hquestion program (hscript program hparse) (h hanime hepisodes)
  exact ⟨hanswers _ fun _ hprogram => Program.destination_withoutExcluded hprogram config,
    hanswers _ fun _ hprogram => Program.relocation_withoutExcluded hprogram config⟩

end FolderScripts

/--
To scripts that do not look at the folders, excluded folders make no difference if each of those
above the file is covered by one that is not excluded and lies as deep. In general they make none
just if the directories that the file keeps are the same without them, unless there is no folder for
the file at all, or the request tells of no anime or no episode.
-/
theorem excluded_folders_ignored_iff (config : Config) (request : Request) :
    (Placement.Covers request.importFolders request.file.path →
      IgnoresExcluded config request) ∧
    (IgnoresExcluded config request ↔
      (request.anime ≠ [] → request.episodes ≠ [] →
        ∀ name folder, Placement.destinationFolder request.importFolders request.file.path
          (Text.trim name) = .ok folder →
            Placement.currentSegments (keptFolders request.importFolders) request.file.path =
              Placement.currentSegments request.importFolders request.file.path)) := by
  constructor
  · intro hcovers
    refine ignoresExcluded_of_keepsSegments fun _ _ _ _ _ => ?_
    exact Placement.currentSegments_keptFolders hcovers
  · exact ⟨keepsSegments_of_ignoresExcluded, ignoresExcluded_of_keepsSegments⟩

/-! ### Excluded folders within source folders -/

/-- A request for a file in a source folder that has another folder in it, above the file. -/
def nestedRequest (inner : ImportFolder) : Request :=
  { libraryRequest "/in/Show/S1/a.mkv" with
    importFolders := [
      library, { id := 2, name := "In", location := "/in", role := .source }, inner] }

/-- The directory that an excluded folder takes away from those that the file keeps. -/
theorem excluded_folder_counts :
    let trash : ImportFolder :=
      { id := 3, name := "Trash", location := "/in/Show", role := .excluded }
    let script : Script := ⟨"RenameScript", "destination set 'Library' ; add 'x' ; "⟩
    script.OverlooksFolders ∧
      ((start {}).destination script (nestedRequest trash)).1 = .ok (some ⟨library, "S1"⟩) ∧
      ((start {}).destination script (nestedRequest trash).withoutExcluded).1 =
        .ok (some ⟨library, "Show/S1"⟩) ∧
      ((start {}).rename script (nestedRequest trash)).1 =
        .ok (some ⟨"x.mkv", library, "S1"⟩) ∧
      ((start {}).rename script (nestedRequest trash).withoutExcluded).1 =
        .ok (some ⟨"x.mkv", library, "Show/S1"⟩) := by
  intro trash script
  let program : Program := ⟨[.set .destination [.text "Library"], .add .unnamed [.text "x"]]⟩
  have htext : program.print = script.text := by decide +kernel
  have hprogram : program.WellFormed := by decide +kernel
  have hask : ∀ {α : Type} (request : Request)
      (question : Program → Config → Request → Except RenameError α),
      rejection? {} script request = none →
      ((start {}).ask script request question).1 = question program {} request :=
    fun request question haccepted => ask_print {} program request question htext hprogram haccepted
  refine ⟨?_, ?_, ?_, ?_, ?_⟩
  · intro other hother
    rw [← htext, program.parse_print hprogram] at hother
    cases hother
    exact ⟨by decide, by decide⟩
  · exact (hask _ Program.destination (by decide +kernel)).trans (by decide +kernel)
  · exact (hask _ Program.destination (by decide +kernel)).trans (by decide +kernel)
  · exact (hask _ Program.relocation (by decide +kernel)).trans (by decide +kernel)
  · exact (hask _ Program.relocation (by decide +kernel)).trans (by decide +kernel)

/-- An excluded folder with a source folder at the same place is ignored, and one without is not. -/
theorem excluded_folders_ignored_iff_of_nested :
    let trash : ImportFolder := { id := 3, name := "Trash", location := "/in/", role := .excluded }
    let deeper : ImportFolder := { trash with location := "/in/Show" }
    Placement.Covers (nestedRequest trash).importFolders "/in/Show/S1/a.mkv" ∧
      IgnoresExcluded {} (nestedRequest trash) ∧ ¬ IgnoresExcluded {} (nestedRequest deeper) := by
  intro trash deeper
  have hcovers : Placement.Covers (nestedRequest trash).importFolders "/in/Show/S1/a.mkv" := by
    unfold Placement.Covers
    decide +kernel
  refine ⟨hcovers, (excluded_folders_ignored_iff {} _).1 hcovers, fun hignores => ?_⟩
  have hkeeps := (excluded_folders_ignored_iff {} _).2.mp hignores (by decide) (by decide) "Library"
    library (by decide +kernel)
  exact absurd hkeeps (by decide +kernel)

end Session

end MediaNaming
