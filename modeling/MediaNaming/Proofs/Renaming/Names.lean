import MediaNaming.Proofs.Placement.Cleaning
import MediaNaming.Proofs.Renaming.Containment

/-!
# Blanks at the ends of new names

Names and segments are trimmed before they are cleaned. So what a session answers has a blank at an
end just when cleaning takes away the characters that stood before it. A name is never blank, while
a segment may be nothing else.
-/

namespace MediaNaming

/-! ## Parts of a subfolder -/

namespace Placement

variable {policy : SanitizePolicy}

/-- A part that is not a wildcard as it is when it is cleaned: with stars, and trimmed. -/
def literalText (part : String) : String :=
  Text.trim (String.ofList (part.toList.map fun c => if c = Marker.wildcard then '*' else c))

theorem literalSegment_eq (policy : SanitizePolicy) (part : String) :
    literalSegment policy part = policy.sanitize (literalText part) := by
  unfold literalSegment literalText SanitizePolicy.sanitize
  rw [Text.toList_trim, String.toList_ofList]

/-- The segment that a part spells out is trimmed and is blank as what is kept of the part is. -/
theorem ends_of_spellsSegment {part segment : String} (h : SpellsSegment policy part segment) :
    (Text.IsTrimmed segment ↔ policy.CoversNoBlank (literalText part)) ∧
      Text.isBlankText segment = policy.keepsBlanks (literalText part) := by
  obtain ⟨-, hsegment, hne⟩ := h
  rw [literalSegment_eq] at hsegment
  subst hsegment
  exact ⟨SanitizePolicy.isTrimmed_sanitize hne, policy.isBlankText_sanitize _⟩

end Placement

/-! ## Passes -/

namespace Program

variable {program : Program} {config : Config} {request : Request}

/-- The stem of a new name is not blank, and it is trimmed unless a blank is uncovered. -/
theorem stem_of_filename {name : String}
    (h : program.filename config request = .ok (some name)) :
    ∃ buffers stem, program.run .filename request = .ok (.completed buffers) ∧
      name = stem ++ request.file.extension ∧ Text.isBlankText stem = false ∧
      (Text.IsTrimmed stem ↔ config.policy.CoversNoBlank (Text.trim buffers.filename)) := by
  obtain ⟨buffers, hrun, hname⟩ := completed_of_filename h
  unfold nameOf at hname
  dsimp only at hname
  split at hname
  · cases hname
  · next hblank =>
    cases hname
    have hstem : Text.isBlankText (config.policy.sanitize (Text.trim buffers.filename)) = false :=
      by simpa using hblank
    refine ⟨buffers, _, hrun, rfl, hstem, SanitizePolicy.isTrimmed_sanitize ?_⟩
    intro hempty
    rw [hempty] at hstem
    cases hstem

/-- A segment that a written subfolder spells out is trimmed unless a blank is uncovered. -/
theorem segment_of_destination {destination : Destination}
    (h : program.destination config request = .ok (some destination)) :
    ∃ buffers, program.run .placement request = .ok (.completed buffers) ∧
      (buffers.subfolderWritten = true →
        ∀ part ∈ Text.split Marker.separator buffers.subfolder, ∀ segment,
          Placement.SpellsSegment config.policy part segment →
            segment ∈ Text.split '/' destination.subfolder ∧
            (Text.IsTrimmed segment ↔
              config.policy.CoversNoBlank (Placement.literalText part)) ∧
            Text.isBlankText segment = config.policy.keepsBlanks (Placement.literalText part)) := by
  obtain ⟨buffers, hrun, hplace⟩ := completed_of_destination h
  obtain ⟨found, -, hsplit, -, hfound⟩ := Placement.pieces_of_resolve hplace
  refine ⟨buffers, hrun, fun hwritten part hpart segment hspells => ?_⟩
  rw [if_pos hwritten] at hfound
  rw [hsplit]
  exact ⟨Placement.segment_mem_segmentsFrom hfound hpart hspells,
    Placement.ends_of_spellsSegment hspells⟩

end Program

namespace Session

/-! ## Sessions -/

/-- What a session answers is what the program says that the script is read as. -/
theorem parse_of_ask_ok {α : Type} {config : Config} {session : Session}
    (hsession : Reachable config session) {script : Script} {request : Request} {a : α}
    {question : Program → Config → Request → Except RenameError α}
    (h : (session.ask script request question).1 = .ok a) :
    ∃ program, Program.parse script.text = .ok program ∧
      question program config request = .ok a := by
  rw [ask_eq_answer hsession] at h
  exact parse_of_answer_ok h

/--
The stem of a name is not blank, while a segment that a part of the subfolder spells out is if only
blanks are kept of the part. Both are trimmed just when what cleaning drops at the ends of the
trimmed text covers no blank.
-/
theorem names_trimmed_iff (config : Config) (session : Session)
    (hsession : Reachable config session) (script : Script) (request : Request) :
    (∀ name, (session.filename script request).1 = .ok (some name) →
      ∃ program buffers stem, Program.parse script.text = .ok program ∧
        program.run .filename request = .ok (.completed buffers) ∧
        name = stem ++ request.file.extension ∧ Text.isBlankText stem = false ∧
        (Text.IsTrimmed stem ↔ config.policy.CoversNoBlank (Text.trim buffers.filename))) ∧
    ∀ destination, (session.destination script request).1 = .ok (some destination) →
      ∃ program buffers, Program.parse script.text = .ok program ∧
        program.run .placement request = .ok (.completed buffers) ∧
        (buffers.subfolderWritten = true →
          ∀ part ∈ Text.split Marker.separator buffers.subfolder, ∀ segment,
            Placement.SpellsSegment config.policy part segment →
              segment ∈ Text.split '/' destination.subfolder ∧
              (Text.IsTrimmed segment ↔
                config.policy.CoversNoBlank (Placement.literalText part)) ∧
              Text.isBlankText segment =
                config.policy.keepsBlanks (Placement.literalText part)) := by
  constructor
  · intro name hname
    obtain ⟨program, hparse, hfilename⟩ := parse_of_ask_ok hsession hname
    obtain ⟨buffers, stem, hstem⟩ := Program.stem_of_filename hfilename
    exact ⟨program, buffers, stem, hparse, hstem⟩
  · intro destination hplace
    obtain ⟨program, hparse, hdestination⟩ := parse_of_ask_ok hsession hplace
    obtain ⟨buffers, hsegments⟩ := Program.segment_of_destination hdestination
    exact ⟨program, buffers, hparse, hsegments⟩

/-! ### Titles that begin with slashes -/

/-- A script that names a file for its anime and puts it below the name of the group. -/
def titleScript : Script :=
  ⟨"RenameScript", "add AnimeTitlePreferred ; subfolder set 'Shows/' GroupName ; "⟩

/-- A request of which the title of the anime and the name of the group matter. -/
def titledRequest (title group : String) : Request :=
  { libraryRequest "/lib/show/a.mkv" with
    anime := [{ id := 1, preferredTitle := title, kind := .movie }]
    group := some { name := group } }

/-- What a fresh session answers about the script. -/
theorem ask_titleScript {α : Type} (config : Config) (request : Request)
    (question : Program → Config → Request → Except RenameError α)
    (haccepted : rejection? config titleScript request = none) :
    ((start config).ask titleScript request question).1 =
      question ⟨[.add .unnamed [.label (.text .animeTitlePreferred)],
        .set .subfolder [.text "Shows/", .label (.text .groupName)]]⟩ config request :=
  ask_print config _ request question (by decide +kernel) (by decide +kernel) haccepted

/--
Where slashes are removed, the blank behind one at the start of a title is then the start of the
name, and a group name of slashes and blanks makes a blank segment.
-/
theorem names_can_be_untrimmed :
    let session := start { removeIllegal := true }
    let request := titledRequest "/ A" "/ /"
    (session.filename titleScript request).1 = .ok (some (" A" ++ request.file.extension)) ∧
      ¬ Text.IsTrimmed " A" ∧
      (session.destination titleScript request).1 = .ok (some ⟨library, "Shows/ "⟩) ∧
      " " ∈ Text.split '/' "Shows/ " ∧ Text.isBlankText " " = true := by
  intro session request
  refine ⟨?_, ?_, ?_, by decide +kernel, by decide +kernel⟩
  · exact (ask_titleScript _ _ Program.filename (by decide +kernel)).trans (by decide +kernel)
  · intro h
    exact absurd h.start (by decide +kernel)
  · exact (ask_titleScript _ _ Program.destination (by decide +kernel)).trans (by decide +kernel)

/-- A slash within a title covers no blank at an end of it. -/
theorem names_trimmed_iff_of_slash :
    let config : Config := { removeIllegal := true }
    let request := titledRequest "A/ B" "C/"
    (∃ program buffers stem, Program.parse titleScript.text = .ok program ∧
      program.run .filename request = .ok (.completed buffers) ∧
      "A B.mkv" = stem ++ request.file.extension ∧ Text.isBlankText stem = false ∧
      (Text.IsTrimmed stem ↔ config.policy.CoversNoBlank (Text.trim buffers.filename))) ∧
    ∃ program buffers, Program.parse titleScript.text = .ok program ∧
      program.run .placement request = .ok (.completed buffers) ∧
      (buffers.subfolderWritten = true →
        ∀ part ∈ Text.split Marker.separator buffers.subfolder, ∀ segment,
          Placement.SpellsSegment config.policy part segment →
            segment ∈ Text.split '/' "Shows/C" ∧
            (Text.IsTrimmed segment ↔
              config.policy.CoversNoBlank (Placement.literalText part)) ∧
            Text.isBlankText segment = config.policy.keepsBlanks (Placement.literalText part)) := by
  intro config request
  have hboth := names_trimmed_iff config _ .start titleScript request
  have hname : ((start config).filename titleScript request).1 = .ok (some "A B.mkv") :=
    (ask_titleScript _ _ Program.filename (by decide +kernel)).trans (by decide +kernel)
  have hplace : ((start config).destination titleScript request).1 =
      .ok (some ⟨library, "Shows/C"⟩) :=
    (ask_titleScript _ _ Program.destination (by decide +kernel)).trans (by decide +kernel)
  exact ⟨hboth.1 _ hname, hboth.2 _ hplace⟩

end Session

end MediaNaming
