import MediaNaming.Proofs.Placement.Segments
import MediaNaming.Proofs.Renaming.Outcomes

/-!
# Files stay in the folder they go to

Where names are made fit for Windows, no script and no metadata move a file out of the folder that
it goes to. Elsewhere a script can, but only by names that it spells out as dots.
-/

namespace MediaNaming

/-! ## New names -/

section Names

variable {config : Config} {request : Request} {buffers : Buffers} {name : String}

/-- A new name is the cleaned text of the buffer, which holds something, with the extension. -/
theorem nameOf_eq_some (h : Program.nameOf config request buffers = some name) :
    ∃ stem, name = stem ++ request.file.extension ∧ stem ≠ "" ∧
      stem.toList = config.policy.sanitizeChars (Text.trim buffers.filename).toList := by
  unfold Program.nameOf at h
  dsimp only at h
  split at h
  · cases h
  · next hblank =>
    cases h
    refine ⟨_, rfl, ?_, String.toList_ofList⟩
    intro hempty
    rw [hempty] at hblank
    exact hblank rfl

theorem isPiece_of_nameOf (h : Program.nameOf config request buffers = some name) :
    Path.IsPiece name := by
  obtain ⟨stem, rfl, hne, hstem⟩ := nameOf_eq_some h
  refine ⟨fun hempty => hne (String.append_eq_empty_iff.mp hempty).1, ?_⟩
  rw [String.toList_append, List.mem_append, not_or, hstem]
  exact ⟨config.policy.slash_not_mem_sanitizeChars _, Path.slash_not_mem_extension _⟩

/-- A name is dots only if none but dots were written and the file has no extension to speak of. -/
theorem extension_of_isDots (h : Program.nameOf config request buffers = some name)
    (hdots : Path.IsDots name) :
    config.windowsCompatible = false ∧
      (request.file.extension = "" ∨ request.file.extension = ".") := by
  obtain ⟨stem, rfl, hne, hstem⟩ := nameOf_eq_some h
  have hall : ∀ c ∈ stem.toList ++ request.file.extension.toList, c = '.' := by
    rw [← String.toList_append]
    exact Path.eq_dot_of_isDots hdots
  constructor
  · -- The last character of the stem is a dot, which Windows names cannot end in.
    cases hwindows : config.windowsCompatible with
    | false => rfl
    | true =>
      have hstem' : stem.toList ≠ [] := by simpa using hne
      have hlast : stem.toList.getLast? = some '.' := by
        rw [List.getLast?_eq_some_getLast hstem',
          hall _ (List.mem_append_left _ (List.getLast_mem hstem'))]
      rw [hstem] at hlast
      exact absurd hlast (SanitizePolicy.getLast?_sanitizeChars hwindows _)
  · -- Dots are two characters at most, and the stem has one of them.
    have hext : ∀ c ∈ request.file.extension.toList, c = '.' :=
      fun c hc => hall c (List.mem_append_right _ hc)
    have hlength : stem.length + request.file.extension.length ≤ 2 := by
      rw [← String.length_append]
      rcases hdots with heq | heq <;> rw [heq] <;> decide
    have hstem : stem.length ≠ 0 := by simpa using hne
    have hshort : request.file.extension.toList.length ≤ 1 := by
      rw [String.length_toList]
      omega
    cases hchars : request.file.extension.toList with
    | nil => exact .inl (String.toList_eq_nil_iff.mp hchars)
    | cons c cs =>
      rw [hchars] at hext hshort
      have hc : c = '.' := hext c List.mem_cons_self
      have hcs : cs = [] := List.eq_nil_of_length_eq_zero (by simpa using hshort)
      rw [hc, hcs] at hchars
      exact .inr (String.toList_inj.mp (hchars.trans (by decide)))

end Names

namespace Relocation

/-! ## Staying below -/

/-- The file stays strictly below its folder: no part of its new path is dots. -/
structure StaysBelow (relocation : Relocation) : Prop where
  subfolder : ∀ piece ∈ Text.split '/' relocation.destination.subfolder, ¬ Path.IsDots piece
  filename : ¬ Path.IsDots relocation.filename
  below : ∃ below, below ≠ [] ∧ Path.resolve relocation.fullPath =
    Path.resolve relocation.destination.folder.location ++ below

/-- A path whose parts are names and no dots leads below the folder. -/
theorem staysBelow_of_names {relocation : Relocation}
    (hpieces : ∀ piece ∈ Text.split '/' relocation.destination.subfolder,
      piece ≠ "" ∧ ¬ Path.IsDots piece)
    (hname : Path.IsPiece relocation.filename)
    (hdots : ¬ Path.IsDots relocation.filename) : relocation.StaysBelow := by
  have hrelative := hname.isAbsolute_eq
  -- Neither half is empty or absolute, so joining them puts their names one behind the other.
  have hcomponents : Path.components relocation.relativePath =
      Text.split '/' relocation.destination.subfolder ++ [relocation.filename] := by
    rw [relativePath, Path.components_join hrelative, Path.components_of_split rfl hpieces,
      Path.components_of_split hname.split_eq (by simpa using ⟨hname.ne_empty, hdots⟩)]
  have habsolute : Path.isAbsolute relocation.relativePath = false := by
    rw [relativePath, Path.isAbsolute_join hrelative]
    exact Path.isAbsolute_of_split fun piece hpiece => (hpieces piece hpiece).1
  refine ⟨fun piece hpiece => (hpieces piece hpiece).2, hdots, ?_⟩
  refine ⟨Path.components relocation.relativePath, ?_, ?_⟩
  · rw [hcomponents]
    simp
  · rw [fullPath]
    refine Path.resolve_join habsolute ?_
    rw [hcomponents]
    intro hmem
    rcases List.mem_append.mp hmem with hpiece | hfile
    · exact (hpieces ".." hpiece).2 (.inr rfl)
    · exact hdots (.inr (List.mem_singleton.mp hfile).symm)

end Relocation

/-- The script spells out a segment of the subfolder that is dots. -/
def Buffers.WritesDots (buffers : Buffers) (policy : SanitizePolicy) : Prop :=
  buffers.subfolderWritten = true ∧
    ∃ part ∈ Text.split Marker.separator buffers.subfolder, Placement.isWildcard part = false ∧
      Path.IsDots (Placement.literalSegment policy part)

namespace Relocation

section Halves

variable {config : Config} {request : Request} {relocation : Relocation} {named placed : Buffers}

/-- A file that is not below dots stays below its folder unless the script wrote dots. -/
theorem staysBelow_iff
    (hpath : ∀ piece ∈ locationParts request.file.path, ¬ Path.IsDots piece)
    (hname : Program.nameOf config request named = some relocation.filename)
    (hplace : Placement.resolve placed request.importFolders request.file.path config.policy =
      .ok (some relocation.destination)) :
    relocation.StaysBelow ↔
      ¬ placed.WritesDots config.policy ∧ ¬ Path.IsDots relocation.filename := by
  obtain ⟨found, -, hsplit, hnames, hfound⟩ := Placement.pieces_of_resolve hplace
  constructor
  · intro h
    refine ⟨?_, h.filename⟩
    rintro ⟨hwritten, part, hpart, hplain, hdots⟩
    rw [if_pos hwritten] at hfound
    have hne : Placement.literalSegment config.policy part ≠ "" := by
      rcases hdots with heq | heq <;> rw [heq] <;> decide
    have hmem := Placement.segment_mem_segmentsFrom hfound hpart ⟨hplain, rfl, hne⟩
    rw [← hsplit] at hmem
    exact h.subfolder _ hmem hdots
  · rintro ⟨hspelt, hdots⟩
    refine staysBelow_of_names ?_ (isPiece_of_nameOf hname) hdots
    rw [hsplit]
    intro piece hpiece
    refine ⟨(hnames piece hpiece).ne_empty, fun hpieceDots => ?_⟩
    -- A segment of dots is none that the file has now, so the script spelt it out.
    rcases Placement.origin_of_segment hfound hpiece with hkept | ⟨hwritten, part, hpart, hspells⟩
    · exact hpath piece hkept hpieceDots
    · refine hspelt ⟨hwritten, part, hpart, hspells.1, ?_⟩
      rw [hspells.2.1]
      exact hpieceDots

/-- Where names are made fit for Windows, no script writes dots. -/
theorem not_writesDots (hwindows : config.windowsCompatible = true) (buffers : Buffers) :
    ¬ buffers.WritesDots config.policy := by
  rintro ⟨-, part, -, hplain, hdots⟩
  have hne : Placement.literalSegment config.policy part ≠ "" := by
    rcases hdots with heq | heq <;> rw [heq] <;> decide
  have hspells : Placement.SpellsSegment config.policy part _ := ⟨hplain, rfl, hne⟩
  exact Placement.not_isDots_of_spellsSegment hwindows hspells hdots

end Halves

end Relocation

namespace Session

/-! ### Scripts that write dots -/

/-- A folder that files may go to. -/
def library : ImportFolder :=
  { id := 1, name := "Library", location := "/lib", role := .destination }

/-- A request of which only the path of the file matters. -/
def libraryRequest (path : String) : Request where
  file := { id := 1, path }
  anime := [{ id := 1, preferredTitle := "A", kind := .movie }]
  episodes := [{ id := 1, animeId := 1, number := 1, kind := .episode }]
  importFolders := [library]

/-- What a fresh session answers about the script that a program is printed as. -/
theorem ask_print {α : Type} (config : Config) (program : Program) (request : Request)
    (question : Program → Config → Request → Except RenameError α) {text : String}
    (htext : program.print = text) (hprogram : program.WellFormed)
    (haccepted : rejection? config ⟨"RenameScript", text⟩ request = none) :
    ((start config).ask ⟨"RenameScript", text⟩ request question).1 =
      question program config request := by
  have hparse : Program.parse text = .ok program := by
    rw [← htext]
    exact program.parse_print hprogram
  exact (ask_eq_answer .start _ request question).trans (answer_of_parse haccepted hparse question)

theorem rename_print (config : Config) (program : Program) (request : Request) {text : String}
    (htext : program.print = text) (hprogram : program.WellFormed)
    (haccepted : rejection? config ⟨"RenameScript", text⟩ request = none) :
    ((start config).rename ⟨"RenameScript", text⟩ request).1 =
      program.relocation config request :=
  ask_print config program request Program.relocation htext hprogram haccepted

/--
Without names fit for Windows, a subfolder that is written as `..` leads out of the folder. With
them, backslashes in the path of the file do if a script keeps its directories.
-/
theorem rename_can_leave :
    (∀ path ∈ ["/lib/show/a.mkv", "/lib/..\\..\\show/a.mkv", library.location],
      ∀ piece ∈ Text.split '/' path, ¬ Path.IsDots piece) ∧
    ((start {}).rename ⟨"RenameScript", "subfolder set '..' ; add 'x' ; "⟩
      (libraryRequest "/lib/show/a.mkv")).1 = .ok (some ⟨"x.mkv", library, ".."⟩) ∧
    ¬ Relocation.StaysBelow ⟨"x.mkv", library, ".."⟩ ∧
    ((start { windowsCompatible := true }).rename
      ⟨"RenameScript", "subfolder set '*/*' ; add 'x' ; "⟩
      (libraryRequest "/lib/..\\..\\show/a.mkv")).1 = .ok (some ⟨"x.mkv", library, "../.."⟩) ∧
    ¬ Relocation.StaysBelow ⟨"x.mkv", library, "../.."⟩ := by
  -- Both scripts are read as the programs that are printed as they are.
  refine ⟨by decide +kernel, ?_, ?_, ?_, ?_⟩
  · refine (rename_print {} ⟨[.set .subfolder [.text ".."], .add .unnamed [.text "x"]]⟩ _
      (by decide +kernel) (by decide +kernel) (by decide +kernel)).trans ?_
    decide +kernel
  · intro h
    exact h.subfolder ".." (by decide +kernel) (.inr rfl)
  · refine (rename_print _ ⟨[.set .subfolder [.text "*/*"], .add .unnamed [.text "x"]]⟩ _
      (by decide +kernel) (by decide +kernel) (by decide +kernel)).trans ?_
    decide +kernel
  · intro h
    exact h.subfolder ".." (by decide +kernel) (.inr rfl)

/--
Where names are made fit for Windows, a file that is not below dots stays below the folder that it
goes to, whatever the script and the metadata. Elsewhere it does so unless the script spells out a
segment that is dots, or the file's name is dots, for which its extension has to be empty or a dot.
-/
theorem rename_stays_below (config : Config) (session : Session)
    (hsession : Reachable config session) (script : Script) (request : Request)
    (relocation : Relocation)
    (hpath : ∀ piece ∈ locationParts request.file.path, ¬ Path.IsDots piece)
    (hrename : (session.rename script request).1 = .ok (some relocation)) :
    (config.windowsCompatible = true → relocation.StaysBelow) ∧
    (Path.IsDots relocation.filename →
      request.file.extension = "" ∨ request.file.extension = ".") ∧
    ∃ program buffers, Program.parse script.text = .ok program ∧
      program.run .placement request = .ok (.completed buffers) ∧
      (relocation.StaysBelow ↔
        ¬ buffers.WritesDots config.policy ∧ ¬ Path.IsDots relocation.filename) := by
  have hanswer : (session.rename script request).1 = answer config script request _ :=
    ask_eq_answer hsession script request Program.relocation
  obtain ⟨program, hparse, hrelocation⟩ := parse_of_answer_ok (hanswer.symm.trans hrename)
  obtain ⟨named, placed, -, hplaced, hname, hplace⟩ := Program.halves_of_relocation hrelocation
  have hiff := Relocation.staysBelow_iff hpath hname hplace
  refine ⟨fun hwindows => ?_, fun hdots => (extension_of_isDots hname hdots).2,
    program, placed, hparse, hplaced, hiff⟩
  refine hiff.mpr ⟨Relocation.not_writesDots hwindows placed, fun hdots => ?_⟩
  have hplain := (extension_of_isDots hname hdots).1
  rw [hwindows] at hplain
  cases hplain

/-- Where names are made fit for Windows, dots in a literal subfolder are dropped. -/
theorem rename_stays_below_of_dots :
    ((start { windowsCompatible := true }).rename
      ⟨"RenameScript", "subfolder set '../Show' ; add 'x' ; "⟩
      (libraryRequest "/lib/a.mkv")).1 = .ok (some ⟨"x.mkv", library, "Show"⟩) ∧
    Relocation.StaysBelow ⟨"x.mkv", library, "Show"⟩ := by
  have hrename : ((start { windowsCompatible := true }).rename
      ⟨"RenameScript", "subfolder set '../Show' ; add 'x' ; "⟩
      (libraryRequest "/lib/a.mkv")).1 = .ok (some ⟨"x.mkv", library, "Show"⟩) := by
    refine (rename_print _ ⟨[.set .subfolder [.text "../Show"], .add .unnamed [.text "x"]]⟩ _
      (by decide +kernel) (by decide +kernel) (by decide +kernel)).trans ?_
    decide +kernel
  have hpath : ∀ piece ∈ locationParts (libraryRequest "/lib/a.mkv").file.path,
      ¬ Path.IsDots piece := by decide +kernel
  exact ⟨hrename, (rename_stays_below _ _ .start _ _ _ hpath hrename).1 rfl⟩

end Session

end MediaNaming
