import MediaNaming.Proofs.Renaming.Outcomes

/-!
# Sessions forget what they were asked

A session answers every question as a fresh one would, and what it says about a name and a place
separately makes up what it says about both. Its store changes with every script that is not
rejected, in the same way whatever the question is.
-/

namespace MediaNaming

/-! ## Halves of relocations -/

/-- A relocation out of a name and a place; the name comes first, and so do its failures. -/
def Relocation.ofHalves : Except RenameError (Option String) →
    Except RenameError (Option Destination) → Except RenameError (Option Relocation)
  | .error error, _ => .error error
  | .ok none, _ => .ok none
  | .ok (some _), .error error => .error error
  | .ok (some _), .ok none => .ok none
  | .ok (some filename), .ok (some destination) => .ok (some { filename, destination })

namespace Program

variable (program : Program) (config : Config) (request : Request)

theorem relocation_eq_ofHalves : program.relocation config request =
    Relocation.ofHalves (program.filename config request) (program.destination config request) := by
  unfold relocation
  cases program.filename config request with
  | error error => rfl
  | ok name =>
    cases name with
    | none => rfl
    | some name =>
      cases program.destination config request with
      | error error => rfl
      | ok place => cases place <;> rfl

end Program

/-! ## Rejections -/

def RenameError.isRejection : RenameError → Bool
  | rejected _ => true
  | _ => false

/-- Whether a script was not run for a request. -/
def isRejection {α : Type} : Except RenameError α → Bool
  | .error error => error.isRejection
  | .ok _ => false

namespace Program

variable (program : Program) (config : Config) (request : Request)

theorem isRejection_toRenameError (error : PassError) :
    error.toRenameError.isRejection = false := by
  cases error <;> rfl

/-- Scripts are rejected before they are run, not by what they do. -/
theorem isRejection_filename : isRejection (program.filename config request) = false := by
  cases hrun : program.run .filename request with
  | error error =>
    rw [filename_of_error hrun]
    exact isRejection_toRenameError error
  | ok outcome =>
    cases outcome with
    | completed buffers => rw [filename_of_completed hrun]; rfl
    | skipped => rw [filename_of_skipped hrun]; rfl

theorem isRejection_destination : isRejection (program.destination config request) = false := by
  cases hrun : program.run .placement request with
  | error error =>
    rw [destination_of_error hrun]
    exact isRejection_toRenameError error
  | ok outcome =>
    cases outcome with
    | completed buffers =>
      rw [destination_of_completed hrun]
      cases Placement.resolve buffers request.importFolders request.file.path config.policy <;> rfl
    | skipped => rw [destination_of_skipped hrun]; rfl

theorem isRejection_relocation : isRejection (program.relocation config request) = false := by
  have hname := program.isRejection_filename config request
  have hplace := program.isRejection_destination config request
  rw [relocation_eq_ofHalves]
  -- A relocation fails as the half that it fails for.
  cases hfilename : program.filename config request with
  | error error => rwa [hfilename] at hname
  | ok name =>
    cases name with
    | none => rfl
    | some name =>
      cases hdestination : program.destination config request with
      | error error => rwa [hdestination] at hplace
      | ok place => cases place <;> rfl

end Program

/-! ## Questions and answers -/

/-- What a session is asked. -/
inductive Inquiry where
  | check (text : String)
  | filename (script : Script) (request : Request)
  | destination (script : Script) (request : Request)
  | rename (script : Script) (request : Request)

/-- The text of the script that the session is asked about. -/
def Inquiry.text : Inquiry → String
  | check text => text
  | filename script _ => script.text
  | destination script _ => script.text
  | rename script _ => script.text

/-- What a session answers; whether a program is read anew makes no difference. -/
inductive Answer where
  | program (result : Except SyntaxError Program)
  | filename (result : Except RenameError (Option String))
  | destination (result : Except RenameError (Option Destination))
  | relocation (result : Except RenameError (Option Relocation))

def Answer.isRejection : Answer → Bool
  | program _ => false
  | filename result => MediaNaming.isRejection result
  | destination result => MediaNaming.isRejection result
  | relocation result => MediaNaming.isRejection result

namespace Session

def reply (session : Session) : Inquiry → Answer × Session
  | .check text =>
    let (reading, session) := session.check text
    (.program (reading.map ParsedScript.program), session)
  | .filename script request =>
    let (result, session) := session.filename script request
    (.filename result, session)
  | .destination script request =>
    let (result, session) := session.destination script request
    (.destination result, session)
  | .rename script request =>
    let (result, session) := session.rename script request
    (.relocation result, session)

/-- The session after it was asked one thing after the other. -/
def after (session : Session) (inquiries : List Inquiry) : Session :=
  inquiries.foldl (fun session inquiry => (session.reply inquiry).2) session

section Answers

variable {config : Config} {digest : String → String} {asked : String → Prop} {session : Session}

theorem Sound.reply (h : Sound config digest asked session) {inquiry : Inquiry}
    (hinquiry : asked inquiry.text) : Sound config digest asked (session.reply inquiry).2 := by
  cases inquiry with
  | check text => exact h.check hinquiry
  | filename script request => exact h.ask hinquiry request _
  | destination script request => exact h.ask hinquiry request _
  | rename script request => exact h.ask hinquiry request _

theorem Sound.after (h : Sound config digest asked session) {inquiries : List Inquiry}
    (hinquiries : ∀ inquiry ∈ inquiries, asked inquiry.text) :
    Sound config digest asked (session.after inquiries) := by
  induction inquiries generalizing session with
  | nil => exact h
  | cons inquiry inquiries ih =>
    simp only [List.forall_mem_cons] at hinquiries
    exact ih (h.reply hinquiries.1) hinquiries.2

theorem Sound.program_check (h : Sound config digest asked session)
    (hdigest : Distinguishes digest asked) {text : String} (htext : asked text) :
    (session.reply (.check text)).1 = .program (Program.parse text) := by
  obtain ⟨number, hreading⟩ := h.reading_check hdigest htext
  show Answer.program ((session.check text).1.map ParsedScript.program) = _
  rw [hreading, ScriptStore.parse]
  cases Program.parse text <;> rfl

/-- Two sessions that both tell the scripts apart answer alike, whatever their stores hold. -/
theorem Sound.reply_eq {other : Session} (h : Sound config digest asked session)
    (hother : Sound config digest asked other) (hdigest : Distinguishes digest asked)
    {inquiry : Inquiry} (hinquiry : asked inquiry.text) :
    (session.reply inquiry).1 = (other.reply inquiry).1 := by
  cases inquiry with
  | check text =>
    have htext : asked text := hinquiry
    rw [h.program_check hdigest htext, hother.program_check hdigest htext]
  | filename script request =>
    exact congrArg Answer.filename ((h.ask_eq_answer hdigest hinquiry request _).trans
      (hother.ask_eq_answer hdigest hinquiry request _).symm)
  | destination script request =>
    exact congrArg Answer.destination ((h.ask_eq_answer hdigest hinquiry request _).trans
      (hother.ask_eq_answer hdigest hinquiry request _).symm)
  | rename script request =>
    exact congrArg Answer.relocation ((h.ask_eq_answer hdigest hinquiry request _).trans
      (hother.ask_eq_answer hdigest hinquiry request _).symm)

theorem Sound.rename_eq_ofHalves (h : Sound config digest asked session)
    (hdigest : Distinguishes digest asked) {script : Script} (hscript : asked script.text)
    (request : Request) :
    (session.rename script request).1 =
      Relocation.ofHalves (session.filename script request).1
        (session.destination script request).1 := by
  unfold rename filename destination
  simp only [h.ask_eq_answer hdigest hscript, answer]
  cases rejection? config script request with
  | some reason => rfl
  | none =>
    cases Program.parse script.text with
    | error error => rfl
    | ok program => exact program.relocation_eq_ofHalves config request

end Answers

/-! ## What becomes of the store -/

section Stores

variable (session : Session) (script : Script) (request : Request)

/-- A question is rejected if and only if there is a reason to reject it. -/
theorem isRejection_ask {α : Type}
    {question : Program → Config → Request → Except RenameError α}
    (hquestion : ∀ program config, isRejection (question program config request) = false) :
    isRejection (session.ask script request question).1 =
      (rejection? session.config script request).isSome := by
  unfold ask
  cases rejection? session.config script request with
  | some reason => rfl
  | none =>
    dsimp only
    split
    · exact hquestion _ _
    · rfl

/-- Only a question that is not rejected changes the session, as checking its script does. -/
theorem session_of_reply (inquiry : Inquiry) :
    (session.reply inquiry).2 =
      if (session.reply inquiry).1.isRejection then session
      else (session.check inquiry.text).2 := by
  cases inquiry with
  | check text => rfl
  | filename script request =>
    have hrejection := session.isRejection_ask script request
      fun program config => program.isRejection_filename config request
    exact (session.session_of_ask script request _).trans (by rw [← hrejection]; rfl)
  | destination script request =>
    have hrejection := session.isRejection_ask script request
      fun program config => program.isRejection_destination config request
    exact (session.session_of_ask script request _).trans (by rw [← hrejection]; rfl)
  | rename script request =>
    have hrejection := session.isRejection_ask script request
      fun program config => program.isRejection_relocation config request
    exact (session.session_of_ask script request _).trans (by rw [← hrejection]; rfl)

end Stores

/--
Whatever a session was asked before, and however many scripts it keeps, it answers as a fresh one
if no two of the scripts have the same digest. What a script is read as is what it parses to, and a
relocation is made up of its halves. A question that is rejected leaves the session as it was, and
every other one changes it as checking the script would.
-/
theorem history_is_forgotten (config : Config) (digest : String → String)
    (earlier : List Inquiry) :
    (∀ inquiry : Inquiry,
      Distinguishes digest (· ∈ (inquiry :: earlier).map Inquiry.text) →
        (((fresh config digest).after earlier).reply inquiry).1 =
          ((fresh config digest).reply inquiry).1) ∧
    (∀ text, Distinguishes digest (· ∈ text :: earlier.map Inquiry.text) →
      (((fresh config digest).after earlier).reply (.check text)).1 =
        .program (Program.parse text)) ∧
    (∀ (script : Script) (request : Request),
      Distinguishes digest (· ∈ script.text :: earlier.map Inquiry.text) →
        (((fresh config digest).after earlier).rename script request).1 =
          Relocation.ofHalves (((fresh config digest).after earlier).filename script request).1
            (((fresh config digest).after earlier).destination script request).1) ∧
    ∀ inquiry : Inquiry,
      (((fresh config digest).after earlier).reply inquiry).2 =
        if (((fresh config digest).after earlier).reply inquiry).1.isRejection then
          (fresh config digest).after earlier
        else
          (((fresh config digest).after earlier).check inquiry.text).2 := by
  -- The session has been asked about the scripts of the history, and is then asked about one more.
  have hsound (text : String) : Sound config digest (· ∈ text :: earlier.map Inquiry.text)
      ((fresh config digest).after earlier) :=
    (sound_fresh config digest _).after fun inquiry hinquiry =>
      List.mem_cons_of_mem _ (List.mem_map_of_mem hinquiry)
  refine ⟨fun inquiry hdigest => ?_, fun text hdigest => ?_, fun script request hdigest => ?_,
    fun inquiry => session_of_reply _ inquiry⟩
  · exact (hsound inquiry.text).reply_eq (sound_fresh config digest _) hdigest
      List.mem_cons_self
  · exact (hsound text).program_check hdigest List.mem_cons_self
  · exact (hsound script.text).rename_eq_ofHalves hdigest List.mem_cons_self request

/-- A store of one script that goes by first letters, and three scripts that push each other out. -/
theorem history_is_forgotten_of_eviction :
    let config : Config := { cacheCapacity := 1 }
    let digest : String → String := fun text => String.ofList (text.toList.take 1)
    let request : Request := {
      file := { id := 1, path := "a.mkv" }
      anime := [{ id := 1, preferredTitle := "A", kind := .movie }]
      episodes := [{ id := 1, animeId := 1, number := 1, kind := .episode }] }
    let earlier : List Inquiry :=
      [.check "skip", .rename ⟨"RenameScript", "cancel 'no'"⟩ request, .check "if"]
    let session := (fresh config digest).after earlier
    let script : Script := ⟨"RenameScript", "skip"⟩
    Distinguishes digest (· ∈ "skip" :: earlier.map Inquiry.text) ∧
      (session.reply (.check "skip")).1 = ((fresh config digest).reply (.check "skip")).1 ∧
      (session.reply (.check "skip")).1 = .program (Program.parse "skip") ∧
      (session.rename script request).1 = Relocation.ofHalves (session.filename script request).1
        (session.destination script request).1 := by
  intro config digest request earlier session script
  have hdigest : Distinguishes digest (· ∈ "skip" :: earlier.map Inquiry.text) := by
    have hfinite : ∀ script ∈ "skip" :: earlier.map Inquiry.text,
        ∀ other ∈ "skip" :: earlier.map Inquiry.text,
          digest script = digest other → script = other := by decide +kernel
    exact fun script other hscript hother => hfinite script hscript other hother
  have hforgotten := history_is_forgotten config digest earlier
  exact ⟨hdigest, hforgotten.1 (.check "skip") hdigest, hforgotten.2.1 "skip" hdigest,
    hforgotten.2.2.1 script request hdigest⟩

end Session

end MediaNaming
