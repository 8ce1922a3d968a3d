import MediaNaming.Proofs.Printing.Programs
import MediaNaming.Proofs.Renaming.Passes
import MediaNaming.Proofs.Renaming.Sessions

/-!
# What passes have in common

The pass that names a file and the one that places it agree on whether the script completes, skips
or cancels. So a script that cancels or skips in either of them yields no relocation.
-/

namespace MediaNaming

namespace Program

variable {program : Program} {config : Config} {request : Request}

/-! ## Questions and passes -/

theorem buffers?_of_completed {pass : Pass} {buffers : Buffers}
    (h : program.run pass request = .ok (.completed buffers)) :
    program.buffers? pass request = .ok (some buffers) := by
  rw [buffers?, h]

theorem filename_of_error {error : PassError} (h : program.run .filename request = .error error) :
    program.filename config request = .error error.toRenameError := by
  rw [filename, buffers?, h]
  rfl

theorem filename_of_skipped (h : program.run .filename request = .ok .skipped) :
    program.filename config request = .ok none := by
  rw [filename, buffers?, h]
  rfl

theorem filename_of_completed {buffers : Buffers}
    (h : program.run .filename request = .ok (.completed buffers)) :
    program.filename config request = .ok (nameOf config request buffers) := by
  rw [filename, buffers?_of_completed h, ok_bind]
  rfl

theorem destination_of_error {error : PassError}
    (h : program.run .placement request = .error error) :
    program.destination config request = .error error.toRenameError := by
  rw [destination, buffers?, h]
  rfl

theorem destination_of_skipped (h : program.run .placement request = .ok .skipped) :
    program.destination config request = .ok none := by
  rw [destination, buffers?, h]
  rfl

theorem destination_of_completed {buffers : Buffers}
    (h : program.run .placement request = .ok (.completed buffers)) :
    program.destination config request =
      (Placement.resolve buffers request.importFolders request.file.path config.policy).mapError
        .placement := by
  rw [destination, buffers?_of_completed h, ok_bind]

/-- Only the pass itself cancels the question about the name. -/
theorem run_of_filename_cancelled {message : String}
    (h : program.filename config request = .error (.cancelled message)) :
    program.run .filename request = .error (.cancelled message) := by
  cases hrun : program.run .filename request with
  | error error =>
    rw [filename_of_error hrun] at h
    cases error with
    | eval error => cases h
    | cancelled message => cases h; rfl
  | ok outcome =>
    cases outcome with
    | completed buffers =>
      rw [filename_of_completed hrun] at h
      cases h
    | skipped =>
      rw [filename_of_skipped hrun] at h
      cases h

/-- Only the pass itself cancels the question about the place. -/
theorem run_of_destination_cancelled {message : String}
    (h : program.destination config request = .error (.cancelled message)) :
    program.run .placement request = .error (.cancelled message) := by
  cases hrun : program.run .placement request with
  | error error =>
    rw [destination_of_error hrun] at h
    cases error with
    | eval error => cases h
    | cancelled message => cases h; rfl
  | ok outcome =>
    cases outcome with
    | completed buffers =>
      rw [destination_of_completed hrun] at h
      cases hresolve : Placement.resolve buffers request.importFolders request.file.path
          config.policy with
      | error error => rw [hresolve] at h; cases h
      | ok place => rw [hresolve] at h; cases h
    | skipped =>
      rw [destination_of_skipped hrun] at h
      cases h

/-- A name comes from a pass that completes. -/
theorem completed_of_filename {name : String}
    (h : program.filename config request = .ok (some name)) :
    ∃ buffers, program.run .filename request = .ok (.completed buffers) ∧
      nameOf config request buffers = some name := by
  cases hrun : program.run .filename request with
  | error error =>
    rw [filename_of_error hrun] at h
    cases h
  | ok outcome =>
    cases outcome with
    | completed buffers =>
      rw [filename_of_completed hrun] at h
      exact ⟨buffers, rfl, Except.ok.inj h⟩
    | skipped =>
      rw [filename_of_skipped hrun] at h
      cases h

/-- A place comes from a pass that completes. -/
theorem completed_of_destination {place : Destination}
    (h : program.destination config request = .ok (some place)) :
    ∃ buffers, program.run .placement request = .ok (.completed buffers) ∧
      Placement.resolve buffers request.importFolders request.file.path config.policy =
        .ok (some place) := by
  cases hrun : program.run .placement request with
  | error error =>
    rw [destination_of_error hrun] at h
    cases h
  | ok outcome =>
    cases outcome with
    | completed buffers =>
      rw [destination_of_completed hrun] at h
      refine ⟨buffers, rfl, ?_⟩
      cases hresolve : Placement.resolve buffers request.importFolders request.file.path
          config.policy with
      | error error => rw [hresolve] at h; cases h
      | ok found => rw [hresolve] at h; cases h; rfl
    | skipped =>
      rw [destination_of_skipped hrun] at h
      cases h

/-! ## Relocations -/

theorem relocation_of_filename_error {error : RenameError}
    (h : program.filename config request = .error error) :
    program.relocation config request = .error error := by
  rw [relocation, h]
  rfl

theorem relocation_of_filename_none (h : program.filename config request = .ok none) :
    program.relocation config request = .ok none := by
  rw [relocation, h]
  rfl

/-- What a relocation is made of: both passes complete, and each yields its half. -/
theorem halves_of_relocation {relocation : Relocation}
    (h : program.relocation config request = .ok (some relocation)) :
    ∃ named placed, program.run .filename request = .ok (.completed named) ∧
      program.run .placement request = .ok (.completed placed) ∧
      nameOf config request named = some relocation.filename ∧
      Placement.resolve placed request.importFolders request.file.path config.policy =
        .ok (some relocation.destination) := by
  obtain ⟨name, hname, hrest⟩ := bind_eq_ok_iff.mp h
  cases name with
  | none => cases hrest
  | some name =>
    obtain ⟨place, hplace, hreturn⟩ := bind_eq_ok_iff.mp hrest
    cases place with
    | none => cases hreturn
    | some place =>
      cases hreturn
      obtain ⟨named, hnamed, hfilename⟩ := completed_of_filename hname
      obtain ⟨placed, hplaced, hresolve⟩ := completed_of_destination hplace
      exact ⟨named, placed, hnamed, hplaced, hfilename, hresolve⟩

/-- A script that cancels in one pass cancels the relocation, unless an evaluation fails first. -/
theorem relocation_of_cancelled {message : String}
    (h : program.run .filename request = .error (.cancelled message) ∨
      program.run .placement request = .error (.cancelled message)) :
    program.relocation config request = .error (.cancelled message) ∨
      ∃ error, program.relocation config request = .error (.eval error) := by
  rcases h with hfilename | hplacement
  · exact .inl (relocation_of_filename_error (filename_of_error hfilename))
  · -- The name comes first, so it is its pass that cancels or fails.
    have halike := alike_program request .filename .placement program
    rw [hplacement] at halike
    cases hrun : program.run .filename request with
    | error error =>
      have hrelocation : program.relocation config request = .error error.toRenameError :=
        relocation_of_filename_error (filename_of_error hrun)
      rw [hrun] at halike
      cases halike with
      | cancelled => exact .inl hrelocation
      | evalLeft error => exact .inr ⟨error, hrelocation⟩
    | ok outcome =>
      rw [hrun] at halike
      cases halike

/-- A script that skips in one pass yields no relocation. -/
theorem relocation_of_skipped {pass : Pass} (h : program.run pass request = .ok .skipped)
    (relocation : Relocation) : program.relocation config request ≠ .ok (some relocation) := by
  have halike := alike_program request .filename pass program
  rw [h] at halike
  cases hrun : program.run .filename request with
  | error error =>
    rw [relocation_of_filename_error (filename_of_error hrun)]
    simp
  | ok outcome =>
    rw [hrun] at halike
    cases halike with
    | skipped =>
      rw [relocation_of_filename_none (filename_of_skipped hrun)]
      simp

end Program

/-! ## Sessions -/

namespace Session

section Answers

variable {config : Config} {script : Script} {request : Request} {program : Program}

theorem answer_of_parse {α : Type} (haccepted : rejection? config script request = none)
    (hparse : Program.parse script.text = .ok program)
    (question : Program → Config → Request → Except RenameError α) :
    answer config script request question = question program config request := by
  rw [answer, haccepted, hparse]

/-- Only a program cancels: neither a script that is not run nor one that is none. -/
theorem parse_of_answer_cancelled {α : Type} {message : String}
    {question : Program → Config → Request → Except RenameError α}
    (haccepted : rejection? config script request = none)
    (h : answer config script request question = .error (.cancelled message)) :
    ∃ program, Program.parse script.text = .ok program ∧
      question program config request = .error (.cancelled message) := by
  cases hparse : Program.parse script.text with
  | error error =>
    rw [answer, haccepted, hparse] at h
    cases h
  | ok program =>
    rw [answer_of_parse haccepted hparse] at h
    exact ⟨program, rfl, h⟩

theorem parse_of_answer_ok {α : Type} {a : α}
    {question : Program → Config → Request → Except RenameError α}
    (h : answer config script request question = .ok a) :
    ∃ program, Program.parse script.text = .ok program ∧
      question program config request = .ok a := by
  cases haccepted : rejection? config script request with
  | some reason =>
    rw [answer, haccepted] at h
    cases h
  | none =>
    cases hparse : Program.parse script.text with
    | error error =>
      rw [answer, haccepted, hparse] at h
      cases h
    | ok program =>
      rw [answer_of_parse haccepted hparse] at h
      exact ⟨program, rfl, h⟩

end Answers

/--
The two passes over a program end alike, if both can evaluate what they come across. So a question
about half of a relocation that is cancelled means that the whole is, or fails to evaluate, and
there is no relocation where a pass skips; whatever the session was asked before.
-/
theorem passes_end_alike :
    (∀ (program : Program) (request : Request),
      (∀ error, program.run .filename request ≠ .error (.eval error)) →
      (∀ error, program.run .placement request ≠ .error (.eval error)) →
        ((∃ b, program.run .filename request = .ok (.completed b)) ↔
          ∃ c, program.run .placement request = .ok (.completed c)) ∧
        (program.run .filename request = .ok .skipped ↔
          program.run .placement request = .ok .skipped) ∧
        ∀ message, program.run .filename request = .error (.cancelled message) ↔
          program.run .placement request = .error (.cancelled message)) ∧
    ∀ (config : Config) (before after : Session), Reachable config before →
      Reachable config after → ∀ (script : Script) (request : Request),
      rejection? config script request = none →
        (∀ message,
          (before.filename script request).1 = .error (.cancelled message) ∨
            (before.destination script request).1 = .error (.cancelled message) →
          (after.rename script request).1 = .error (.cancelled message) ∨
            ∃ error, (after.rename script request).1 = .error (.eval error)) ∧
        ∀ (program : Program) (pass : Pass), Program.parse script.text = .ok program →
          program.run pass request = .ok .skipped →
          ∀ relocation, (after.rename script request).1 ≠ .ok (some relocation) := by
  constructor
  · intro program request hfilename hplacement
    have halike := alike_program request .filename .placement program
    exact ⟨halike.completed_iff hfilename hplacement, halike.skipped_iff hfilename hplacement,
      halike.cancelled_iff hfilename hplacement⟩
  · intro config before after hbefore hafter script request haccepted
    have hrename : (after.rename script request).1 = answer config script request _ :=
      ask_eq_answer hafter script request Program.relocation
    -- All three answers are about the same program, whatever the two sessions hold.
    rw [hrename]
    constructor
    · intro message hcancelled
      have hfilename : (before.filename script request).1 = answer config script request _ :=
        ask_eq_answer hbefore script request Program.filename
      have hdestination : (before.destination script request).1 = answer config script request _ :=
        ask_eq_answer hbefore script request Program.destination
      rw [hfilename, hdestination] at hcancelled
      rcases hcancelled with hcancelled | hcancelled
      · obtain ⟨program, hparse, hquestion⟩ := parse_of_answer_cancelled haccepted hcancelled
        rw [answer_of_parse haccepted hparse]
        exact Program.relocation_of_cancelled (.inl (Program.run_of_filename_cancelled hquestion))
      · obtain ⟨program, hparse, hquestion⟩ := parse_of_answer_cancelled haccepted hcancelled
        rw [answer_of_parse haccepted hparse]
        exact Program.relocation_of_cancelled
          (.inr (Program.run_of_destination_cancelled hquestion))
    · intro program pass hparse hskipped relocation
      rw [answer_of_parse haccepted hparse]
      exact Program.relocation_of_skipped hskipped relocation

/-- The script `cancel 'no'` is cancelled in both passes and as a whole; `skip` yields nothing. -/
theorem passes_end_alike_of_cancel :
    ∃ (request : Request) (cancelling skipping : Script),
      (Program.run ⟨[.cancel [.text "no"]]⟩ .placement request = .error (.cancelled "no")) ∧
      (((start {}).rename cancelling request).1 = .error (.cancelled "no") ∨
        ∃ error, ((start {}).rename cancelling request).1 = .error (.eval error)) ∧
      ∀ relocation, ((start {}).rename skipping request).1 ≠ .ok (some relocation) := by
  let request : Request := {
    file := { id := 1, path := "/in/a.mkv" }
    anime := [{ id := 1, preferredTitle := "A", kind := .movie }]
    episodes := [{ id := 1, animeId := 1, number := 1, kind := .episode }] }
  obtain ⟨cancelling, hcancelling, hcancels⟩ : ∃ script : Script,
      rejection? {} script request = none ∧
        Program.parse script.text = .ok ⟨[.cancel [.text "no"]]⟩ :=
    ⟨⟨"RenameScript", _⟩, by decide +kernel, Program.parse_print _ (by decide)⟩
  obtain ⟨skipping, hskipping, hskips⟩ : ∃ script : Script,
      rejection? {} script request = none ∧ Program.parse script.text = .ok ⟨[.skip]⟩ :=
    ⟨⟨"RenameScript", _⟩, by decide +kernel, Program.parse_print _ (by decide)⟩
  have hrun : Program.run ⟨[.cancel [.text "no"]]⟩ .filename request =
      .error (.cancelled "no") := rfl
  have hfilename : ((start {}).filename cancelling request).1 = .error (.cancelled "no") := by
    refine (ask_eq_answer .start cancelling request Program.filename).trans ?_
    rw [answer_of_parse hcancelling hcancels]
    exact Program.filename_of_error hrun
  refine ⟨request, cancelling, skipping, ?_, ?_, ?_⟩
  · have hiff := passes_end_alike.1 ⟨[.cancel [.text "no"]]⟩ request (fun _ h => by cases h)
      (fun _ h => by cases h)
    exact (hiff.2.2 "no").mp hrun
  · have hhalves := passes_end_alike.2 {} _ _ .start .start cancelling request hcancelling
    exact hhalves.1 "no" (.inl hfilename)
  · have hhalves := passes_end_alike.2 {} _ _ .start .start skipping request hskipping
    exact hhalves.2 _ .filename hskips rfl

end Session

end MediaNaming
