import MediaNaming.Proofs.Placement.Staying
import MediaNaming.Proofs.Renaming.Containment

/-!
# Where file names start

The file name of a path is what stands behind its last slash, up to slashes and single dots at the
end. The directories that a file keeps are taken from the parts of its path, all but the last, and
parts end at backslashes as well. So a name with a backslash is cut into directories, and a name
that a dot follows is taken for one.
-/

namespace MediaNaming

/-! ## Pieces and parts -/

namespace Path

/-- The last thing in the path is a single dot, which names nothing. -/
def EndsInDot (path : String) : Prop :=
  (pieces path).getLast? = some "."

instance (path : String) : Decidable (EndsInDot path) :=
  inferInstanceAs (Decidable (_ = _))

/-- Unless a dot follows it, the file name is the last piece. -/
theorem getLast?_pieces {path name : String} (hname : fileName? path = some name)
    (hdot : ¬ EndsInDot path) : (pieces path).getLast? = some name := by
  have hlast := fileName?_eq_some hname
  unfold EndsInDot at hdot
  rw [components_eq_filter] at hlast
  cases hpieces : pieces path using List.reverseRecOn with
  | nil =>
    rw [hpieces] at hlast
    cases hlast
  | append_singleton front piece =>
    rw [hpieces, List.getLast?_concat] at hdot
    have hpiece : piece ≠ "." := fun heq => hdot (congrArg some heq)
    rw [hpieces, List.filter_append, List.filter_cons_of_pos (by simpa using hpiece),
      List.filter_nil, List.getLast?_concat] at hlast
    rw [List.getLast?_concat, hlast]

end Path

section Parts

variable {path name : String} {folder : ImportFolder}

theorem locationParts_eq_flatMap_pieces (path : String) :
    locationParts path = (Path.pieces path).flatMap locationParts := by
  rw [locationParts_eq_flatMap, Path.pieces]
  induction Text.split '/' path with
  | nil => rfl
  | cons piece pieces ih =>
    rw [List.flatMap_cons, ih]
    by_cases hpiece : piece = ""
    · rw [List.filter_cons_of_neg (by simp [hpiece]), hpiece, locationParts_empty, List.nil_append]
    · rw [List.filter_cons_of_pos (by simp [hpiece]), List.flatMap_cons]

/-- A last piece that no backslash cuts is the last part as well. -/
theorem getLast?_locationParts {piece : String} (hpiece : (Path.pieces path).getLast? = some piece)
    (hback : '\\' ∉ piece.toList) : (locationParts path).getLast? = some piece := by
  obtain ⟨front, hfront⟩ := List.getLast?_eq_some_iff.mp hpiece
  have hname : Path.IsPiece piece := Path.isPiece_of_mem_pieces (List.mem_of_getLast? hpiece)
  rw [locationParts_eq_flatMap_pieces, hfront, List.flatMap_append, List.flatMap_singleton,
    locationParts_of_isPiece hname hback, List.getLast?_concat]

/-- The file name is the last part of a path just when nothing cuts it and no dot follows it. -/
theorem getLast?_locationParts_iff (hname : Path.fileName? path = some name) :
    (locationParts path).getLast? = some name ↔
      '\\' ∉ name.toList ∧ ¬ Path.EndsInDot path := by
  constructor
  · intro hlast
    refine ⟨backslash_not_mem_locationParts (List.mem_of_getLast? hlast), fun hdot => ?_⟩
    -- The dot would be the last part, and a file name is none.
    rw [getLast?_locationParts hdot (by decide)] at hlast
    exact (Path.isPiece_of_fileName? hname).2 (Option.some.inj hlast).symm
  · rintro ⟨hback, hdot⟩
    exact getLast?_locationParts (Path.getLast?_pieces hname hdot) hback

/-- Behind the directories below a folder comes the last part of the path, and nothing else. -/
theorem name_behind_dirs_iff {depth : Nat} (hdepth : folder.depthAbove? path = some depth)
    (hbelow : depth < (locationParts path).length) :
    (∃ dirs, folder.relativeDirs? path = some dirs ∧
        locationParts path = folder.parts ++ dirs ++ [name]) ↔
      (locationParts path).getLast? = some name := by
  obtain ⟨dirs, last, hdirs, hparts, hnone⟩ := ImportFolder.parts_of_depthAbove? hdepth
  constructor
  · rintro ⟨_, -, hname⟩
    rw [hname, List.getLast?_concat]
  · intro hlast
    cases last with
    | none =>
      -- The path would be that of the folder.
      rw [hparts, hnone rfl, (ImportFolder.depthAbove?_eq_some_iff.mp hdepth).2] at hbelow
      simp at hbelow
    | some last =>
      rw [hparts, Option.toList_some, List.getLast?_concat] at hlast
      cases hlast
      exact ⟨dirs, hdirs, hparts⟩

end Parts

namespace Session

/--
Behind the folder and the directories below it the path of a file goes on with its file name, and
with nothing else, just when no backslash is in the name and no dot follows it. If the file lies
directly in the folder, there are no directories below just when backslashes cut its name into no
more than one part.
-/
theorem file_name_follows_dirs_iff (folder : ImportFolder) (path name : String)
    (hname : Path.fileName? path = some name) :
    (∀ depth, folder.depthAbove? path = some depth → depth < (locationParts path).length →
      ((∃ dirs, folder.relativeDirs? path = some dirs ∧
          locationParts path = folder.parts ++ dirs ++ [name]) ↔
        '\\' ∉ name.toList ∧ ¬ Path.EndsInDot path)) ∧
    (path = Path.join folder.location name →
      (folder.relativeDirs? path = some [] ↔ (locationParts name).length ≤ 1)) := by
  constructor
  · intro depth hdepth hbelow
    rw [name_behind_dirs_iff hdepth hbelow]
    exact getLast?_locationParts_iff hname
  · intro hpath
    have hrelative := (Path.isPiece_of_fileName? hname).1.isAbsolute_eq
    have hparts : locationParts path = folder.parts ++ locationParts name := by
      rw [hpath, locationParts_join hrelative]
      rfl
    rw [ImportFolder.relativeDirs?_of_parts hparts, Option.some.injEq, ← List.length_eq_zero_iff,
      List.length_dropLast]
    omega

/-! ### Files that come from a folder -/

/-- A folder that files come from. -/
def incoming : ImportFolder :=
  { id := 2, name := "In", location := "/in", role := .source }

/-- A request for a file that may go from one folder to the other. -/
def incomingRequest (path : String) : Request :=
  { libraryRequest path with importFolders := [library, incoming] }

/--
A name with a backslash is cut, though the file lies directly in its folder; and a name with a dot
behind it is taken for a directory. Both files move to directories that they were not in.
-/
theorem file_name_can_be_cut :
    let cut := "/in/AC\\DC.mkv"
    let dotted := "/in/Show/a.mkv/."
    let script : Script := ⟨"RenameScript", "destination set 'Library' ; add 'x' ; "⟩
    (Path.fileName? cut = some "AC\\DC.mkv" ∧
      cut = Path.join incoming.location "AC\\DC.mkv" ∧
      incoming.depthAbove? cut = some 1 ∧ locationParts cut = ["in", "AC", "DC.mkv"] ∧
      incoming.relativeDirs? cut = some ["AC"] ∧
      ¬ ∃ dirs, incoming.relativeDirs? cut = some dirs ∧
        locationParts cut = incoming.parts ++ dirs ++ ["AC\\DC.mkv"]) ∧
    (Path.fileName? dotted = some "a.mkv" ∧
      incoming.depthAbove? dotted = some 1 ∧
      locationParts dotted = ["in", "Show", "a.mkv", "."] ∧
      incoming.relativeDirs? dotted = some ["Show", "a.mkv"] ∧
      ¬ ∃ dirs, incoming.relativeDirs? dotted = some dirs ∧
        locationParts dotted = incoming.parts ++ dirs ++ ["a.mkv"]) ∧
    ((start {}).rename script (incomingRequest cut)).1 =
      .ok (some ⟨"x.mkv", library, "AC"⟩) ∧
    ((start {}).rename script (incomingRequest dotted)).1 =
      .ok (some ⟨"x.mkv", library, "Show/a.mkv"⟩) := by
  intro cut dotted script
  have hcut : incoming.relativeDirs? cut = some ["AC"] := by decide +kernel
  have hdotted : incoming.relativeDirs? dotted = some ["Show", "a.mkv"] := by decide +kernel
  let program : Program := ⟨[.set .destination [.text "Library"], .add .unnamed [.text "x"]]⟩
  have htext : program.print = script.text := by decide +kernel
  have hprogram : program.WellFormed := by decide +kernel
  refine ⟨⟨by decide +kernel, by decide +kernel, by decide +kernel, by decide +kernel, hcut, ?_⟩,
    ⟨by decide +kernel, by decide +kernel, by decide +kernel, hdotted, ?_⟩, ?_, ?_⟩
  · rintro ⟨dirs, hdirs, hparts⟩
    cases hcut.symm.trans hdirs
    exact absurd hparts (by decide +kernel)
  · rintro ⟨dirs, hdirs, hparts⟩
    cases hdotted.symm.trans hdirs
    exact absurd hparts (by decide +kernel)
  · refine (rename_print {} program _ htext hprogram (by decide +kernel)).trans ?_
    decide +kernel
  · refine (rename_print {} program _ htext hprogram (by decide +kernel)).trans ?_
    decide +kernel

/--
A backslash in the name of a directory does no harm, nor do slashes behind the name of the file; and
a backslash at the end of a name cuts nothing off.
-/
theorem file_name_follows_dirs_iff_of_slashes :
    (Path.fileName? "/in/Show\\S1/a.mkv//" = some "a.mkv" ∧
      ∃ dirs, incoming.relativeDirs? "/in/Show\\S1/a.mkv//" = some dirs ∧
        locationParts "/in/Show\\S1/a.mkv//" = incoming.parts ++ dirs ++ ["a.mkv"]) ∧
    incoming.relativeDirs? "/in/AC\\" = some [] := by
  have hname : Path.fileName? "/in/Show\\S1/a.mkv//" = some "a.mkv" := by decide +kernel
  refine ⟨⟨hname, ?_⟩, ?_⟩
  · exact ((file_name_follows_dirs_iff incoming _ _ hname).1 1 (by decide +kernel)
      (by decide +kernel)).mpr ⟨by decide +kernel, by decide +kernel⟩
  · exact ((file_name_follows_dirs_iff incoming "/in/AC\\" "AC\\" (by decide +kernel)).2
      (by decide +kernel)).mpr (by decide +kernel)

end Session

end MediaNaming
