import MediaNaming.Proofs.Evaluation.Filters
import MediaNaming.Proofs.Placement.Folders

/-!
# Searching for folders

Scripts search the import folders for a text, and ask for a folder to move the file to by a text.
Both find the same folders, so a script may test whether there is a folder before it asks for it.
-/

namespace MediaNaming

namespace Placement

/-- A search and a request for a folder go by the same rule. -/
theorem folderMatches_eq_answersTo (name : String) :
    Collection.folderMatches name = fun folder => answersTo folder name := rfl

/-- To ask for a folder is to search for the name and to take the first destination. -/
theorem findDestination?_eq (folders : List ImportFolder) (name : String) :
    findDestination? folders name =
      (folders.filter (Collection.folderMatches name)).find? ImportFolder.isDestination := by
  rw [findDestination?, folderMatches_eq_answersTo, List.find?_filter, List.find?_filter]
  simp only [and_comm]

end Placement

/-! ## What a search finds -/

/-- The import folders that a search for the text finds. -/
theorem eval_folderSearch {request : Request} {wanted : Expr} {name : String}
    (hwanted : wanted.evalText request = .ok name) :
    (Expr.has (.label (.collection .importFolders)) [.text wanted]).eval request =
      .ok (.collection (.folders
        (request.importFolders.filter (Collection.folderMatches name)))) := by
  have hfolders : (Expr.label (.collection .importFolders)).eval request =
      .ok (.collection (.folders request.importFolders)) := rfl
  exact eval_has_text hfolders hwanted

/--
A script that searches the import folders for a trimmed text and then asks for a folder by it finds
the same ones: there is no such folder just when the search finds no destination, and wherever the
file goes, its folder is the first destination that the search finds.
-/
theorem folder_search_agrees (request : Request) (name : String)
    (htrimmed : Text.trim name = name) (hname : name ≠ "") (wanted : Expr)
    (hwanted : wanted.evalText request = .ok name) (buffers : Buffers)
    (hbuffers : buffers.destination = name) (path : String) (policy : SanitizePolicy) :
    ∃ found, (Expr.has (.label (.collection .importFolders)) [.text wanted]).eval request =
        .ok (.collection (.folders found)) ∧
      (Placement.resolve buffers request.importFolders path policy =
          .error (.noSuchDestination name) ↔
        ∀ folder ∈ found, folder.isDestination = false) ∧
      ∀ place, Placement.resolve buffers request.importFolders path policy = .ok (some place) →
        found.find? ImportFolder.isDestination = some place.folder := by
  have hasked : Text.trim buffers.destination = name := by rw [hbuffers, htrimmed]
  have hasks : buffers.asksNothing = false :=
    Buffers.asksNothing_eq_false_iff.mpr (.inl (by rwa [hasked]))
  refine ⟨_, eval_folderSearch hwanted, ?_, fun place hplace => ?_⟩
  · have habout : (PlacementError.noSuchDestination name).IsAboutFolder := trivial
    rw [Placement.resolve_eq_error_iff habout, hasked,
      Placement.destinationFolder_of_name_eq_error_iff hname, Placement.findDestination?_eq,
      List.find?_eq_none]
    simp only [hasks, and_true, true_and, Bool.not_eq_true]
  · obtain ⟨-, hfolder, -⟩ := Placement.resolve_eq_some_iff.mp hplace
    rw [hasked, Placement.destinationFolder_of_name_eq_ok_iff hname] at hfolder
    rw [← Placement.findDestination?_eq, hfolder]

/--
A search for the name of the group finds a source by its location, then an excluded destination,
then two destinations, by name and by location; the file goes to the first of these.
-/
theorem folder_search_agrees_of_group :
    let library : ImportFolder :=
      { id := 3, name := "/srv/ANIME", location := "/lib", role := .destination }
    let folders : List ImportFolder := [
      { id := 1, name := "Drop", location := "\\SRV\\anime\\", role := .source },
      { id := 2, name := "Old", location := "/srv/anime", role := .union .destination .excluded },
      library,
      { id := 4, name := "Nas", location := "/srv/anime/", role := .destination }]
    let request : Request := {
      file := { id := 1, path := "/in/a.mkv" }, anime := [], episodes := []
      group := some { name := "/srv/Anime" }, importFolders := folders }
    let wanted : Expr := .label (.text .groupName)
    let buffers : Buffers := {
      destination := "/srv/Anime", destinationWritten := true
      subfolder := "S", subfolderWritten := true }
    Text.trim "/srv/Anime" = "/srv/Anime" ∧ wanted.evalText request = .ok "/srv/Anime" ∧
      Placement.resolve buffers folders "/in/a.mkv" {} = .ok (some ⟨library, "S"⟩) ∧
      ∃ found, (Expr.has (.label (.collection .importFolders)) [.text wanted]).eval request =
          .ok (.collection (.folders found)) ∧
        found.find? ImportFolder.isDestination = some library := by
  intro library folders request wanted buffers
  have htrimmed : Text.trim "/srv/Anime" = "/srv/Anime" := by decide +kernel
  have hwanted : wanted.evalText request = .ok "/srv/Anime" := rfl
  have hplace : Placement.resolve buffers folders "/in/a.mkv" {} = .ok (some ⟨library, "S"⟩) := by
    decide +kernel
  obtain ⟨found, hfound, -, hfirst⟩ := folder_search_agrees request "/srv/Anime" htrimmed
    (by decide) wanted hwanted buffers rfl "/in/a.mkv" {}
  exact ⟨htrimmed, hwanted, hplace, found, hfound, hfirst _ hplace⟩

end MediaNaming
