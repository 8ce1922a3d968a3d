import MediaNaming.Proofs.Paths.Joining
import MediaNaming.Proofs.Renaming.Containment

/-!
# New paths

A new path is the location of its folder, the segments of the subfolder and the filename, in this
order and with slashes between them. Neither the segments nor the filename hold a slash of their
own, be it from the script, the metadata or where the file was before.
-/

namespace MediaNaming

namespace Relocation

/-- The new path is made of these segments and the filename, below the location of the folder. -/
structure GoesAlong (relocation : Relocation) (segments : List String) : Prop where
  ne_nil : segments ≠ []
  segment : ∀ segment ∈ segments, Path.IsPiece segment
  filename : Path.IsPiece relocation.filename
  subfolder_eq : relocation.destination.subfolder = "/".intercalate segments
  /-- To join the segments one by one comes to the same. -/
  subfolder_joined : segments.foldl Path.join "" = relocation.destination.subfolder
  relativePath_pieces :
    Text.split '/' relocation.relativePath = segments ++ [relocation.filename]
  fullPath_eq : relocation.fullPath =
    relocation.destination.folder.location ++
      (if relocation.destination.folder.location = "" ∨
        relocation.destination.folder.location.toList.getLast? = some '/' then "" else "/") ++
      relocation.relativePath

theorem goesAlong_of_pieces {relocation : Relocation} {segments : List String}
    (hne : segments ≠ []) (hsegments : ∀ segment ∈ segments, Path.IsPiece segment)
    (hfilename : Path.IsPiece relocation.filename)
    (hsubfolder : relocation.destination.subfolder = "/".intercalate segments) :
    relocation.GoesAlong segments := by
  have hall : ∀ piece ∈ segments ++ [relocation.filename], Path.IsPiece piece := by
    rw [List.forall_mem_append, List.forall_mem_singleton]
    exact ⟨hsegments, hfilename⟩
  have hallNe : segments ++ [relocation.filename] ≠ [] :=
    List.append_ne_nil_of_left_ne_nil hne _
  have hpath : relocation.relativePath = "/".intercalate (segments ++ [relocation.filename]) := by
    rw [relativePath, hsubfolder, Path.join_intercalate hne hsegments hfilename]
  refine ⟨hne, hsegments, hfilename, hsubfolder, ?_, ?_, Path.join_of_relative ?_⟩
  · rw [hsubfolder, Path.foldl_join hsegments]
  · rw [hpath, Path.split_intercalate hallNe hall]
  · rw [hpath, Path.isAbsolute_intercalate hallNe hall]

/-- Both halves of a relocation together give a path of names. -/
theorem goesAlong_of_halves {config : Config} {request : Request} {relocation : Relocation}
    {named placed : Buffers}
    (hname : Program.nameOf config request named = some relocation.filename)
    (hplace : Placement.resolve placed request.importFolders request.file.path config.policy =
      .ok (some relocation.destination)) :
    ∃ segments, Placement.askedSegments placed config.policy
        (Placement.currentSegments request.importFolders request.file.path) = .ok segments ∧
      relocation.GoesAlong segments := by
  obtain ⟨found, hne, hsplit, hpieces, hfound⟩ := Placement.pieces_of_resolve hplace
  have hsubfolder : relocation.destination.subfolder = "/".intercalate found := by
    rw [← hsplit, Text.intercalate_split_slash]
  exact ⟨found, Placement.askedSegments_eq_ok_iff.mpr hfound,
    goesAlong_of_pieces hne hpieces (isPiece_of_nameOf hname) hsubfolder⟩

end Relocation

namespace Session

/--
Whatever the script, the metadata and the policy are, a file that is renamed goes along the segments
that were found for it: its new path has these and the filename as its pieces, and nothing of the
folder's location, of the subfolder or of the segments is lost where they are joined.
-/
theorem new_path_goes_along_segments (config : Config) (session : Session)
    (hsession : Reachable config session) (script : Script) (request : Request)
    (relocation : Relocation)
    (hrename : (session.rename script request).1 = .ok (some relocation)) :
    ∃ program placed segments, Program.parse script.text = .ok program ∧
      program.run .placement request = .ok (.completed placed) ∧
      Placement.askedSegments placed config.policy
        (Placement.currentSegments request.importFolders request.file.path) = .ok segments ∧
      relocation.GoesAlong segments := by
  have hanswer : (session.rename script request).1 = answer config script request _ :=
    ask_eq_answer hsession script request Program.relocation
  obtain ⟨program, hparse, hrelocation⟩ := parse_of_answer_ok (hanswer.symm.trans hrename)
  obtain ⟨named, placed, -, hplaced, hname, hplace⟩ := Program.halves_of_relocation hrelocation
  obtain ⟨segments, hasked, hpath⟩ := Relocation.goesAlong_of_halves hname hplace
  exact ⟨program, placed, segments, hparse, hplaced, hasked, hpath⟩

/-- A script and a title with slashes at both ends, of which none is left in the names. -/
theorem new_path_goes_along_segments_of_slashes :
    let script : Script := ⟨"RenameScript", "subfolder set '/*//' AnimeTitlePreferred ; " ++
      "add '/' AnimeTitlePreferred ; "⟩
    let request : Request := { libraryRequest "/lib//Old/a.b.mkv" with
      anime := [{ id := 1, preferredTitle := "/A/", kind := .movie }] }
    let relocation : Relocation := ⟨"⁄⁄A⁄.mkv", library, "Old/⁄A⁄"⟩
    ((start {}).rename script request).1 = .ok (some relocation) ∧
      relocation.fullPath = "/lib/Old/⁄A⁄/⁄⁄A⁄.mkv" ∧
      ∃ program placed segments, Program.parse script.text = .ok program ∧
        program.run .placement request = .ok (.completed placed) ∧
        Placement.askedSegments placed {}
          (Placement.currentSegments request.importFolders request.file.path) = .ok segments ∧
        relocation.GoesAlong segments := by
  intro script request relocation
  let title : Expr := .label (.text .animeTitlePreferred)
  let program : Program := ⟨[
    .set .subfolder [.text "/*//", title], .add .unnamed [.text "/", title]]⟩
  have htext : program.print = script.text := by decide +kernel
  have hprogram : program.WellFormed := by decide +kernel
  have hrename : ((start {}).rename script request).1 = .ok (some relocation) := by
    refine (rename_print {} program request htext hprogram (by decide +kernel)).trans ?_
    decide +kernel
  exact ⟨hrename, by decide +kernel,
    new_path_goes_along_segments {} _ .start script request relocation hrename⟩

end Session

end MediaNaming
