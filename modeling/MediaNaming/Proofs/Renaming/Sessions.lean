import MediaNaming.Proofs.Results
import MediaNaming.Renaming.Session

/-!
# Sessions answer from the script alone

Whatever a session was asked before, its store holds scripts with what they are read as. So the
answer to a question depends on the configuration, the script and the request.
-/

namespace MediaNaming

/-! ## Stores -/

/-- No two of the scripts that are asked for have the same digest. -/
def Distinguishes (digest : String → String) (asked : String → Prop) : Prop :=
  ∀ script other, asked script → asked other → digest script = digest other → script = other

namespace ScriptStore

variable {asked : String → Prop} {store : ScriptStore}

/-- Every reading is that of a script that was asked for and has the digest. -/
def Honest (asked : String → Prop) (store : ScriptStore) : Prop :=
  ∀ key reading, store.readings[key]? = some reading →
    ∃ script, asked script ∧ store.digest script = key ∧ ∃ number, reading = parse script number

theorem honest_empty (capacity : Nat) (digest : String → String) :
    (empty capacity digest).Honest asked := by
  intro key reading hreading
  simp [empty] at hreading

/-- Leaving only takes readings out. -/
theorem getElem?_of_evict {capacity : Nat} {readings : StoredReadings} {order : List String}
    {key : String} {reading : Reading}
    (h : (evict capacity readings order).1[key]? = some reading) :
    readings[key]? = some reading := by
  induction order generalizing readings with
  | nil => exact h
  | cons oldest order ih =>
    unfold evict at h
    split at h
    · have herased := ih h
      rw [Std.HashMap.getElem?_erase] at herased
      split at herased
      · cases herased
      · exact herased
    · exact h

@[simp] theorem digest_insert (store : ScriptStore) (key : String) (reading : Reading) :
    (store.insert key reading).digest = store.digest := by
  unfold insert
  split <;> rfl

theorem Honest.insert (h : store.Honest asked) {script : String} (hscript : asked script)
    {reading : Reading} (hreading : ∃ number, reading = parse script number) :
    (store.insert (store.digest script) reading).Honest asked := by
  intro key other hother
  rw [digest_insert]
  unfold ScriptStore.insert at hother
  split at hother
  · exact h key other hother
  · simp only [Std.HashMap.getElem?_insert] at hother
    split at hother
    · next hkey =>
      cases hother
      exact ⟨script, hscript, by simpa using hkey, hreading⟩
    · exact h key other (getElem?_of_evict hother)

theorem Honest.find? (h : store.Honest asked) (hdigest : Distinguishes store.digest asked)
    {script : String} (hscript : asked script) {reading : Reading}
    (hfind : store.find? script = some reading) : ∃ number, reading = parse script number := by
  obtain ⟨other, hother, hsame, hreading⟩ := h _ _ hfind
  rwa [hdigest _ _ hother hscript hsame] at hreading

@[simp] theorem digest_get (store : ScriptStore) (script : String) :
    (store.get script).2.digest = store.digest := by
  unfold get
  split
  · rfl
  · dsimp only
    split
    · rfl
    · exact digest_insert _ _ _

/-- An honest store stays honest when it is asked for a script. -/
theorem Honest.get (h : store.Honest asked) {script : String} (hscript : asked script) :
    (store.get script).2.Honest asked := by
  unfold ScriptStore.get
  split
  · exact h
  · have hnext : Honest asked { store with nextNumber := store.nextNumber + 1 } := h
    dsimp only
    split
    · exact hnext
    · exact hnext.insert hscript ⟨_, rfl⟩

/-- An honest store hands out what the script is read as. -/
theorem Honest.reading_get (h : store.Honest asked) (hdigest : Distinguishes store.digest asked)
    {script : String} (hscript : asked script) :
    ∃ number, (store.get script).1 = parse script number := by
  unfold ScriptStore.get
  split
  · next reading hreading => exact h.find? hdigest hscript hreading
  · dsimp only
    split <;> exact ⟨_, rfl⟩

end ScriptStore

/-! ## Sessions -/

namespace Session

/-- The sessions that a fresh one becomes when it is asked questions. -/
inductive Reachable (config : Config) : Session → Prop
  | start : Reachable config (.start config)
  | check {session : Session} (text : String) :
      Reachable config session → Reachable config (session.check text).2
  | filename {session : Session} (script : Script) (request : Request) :
      Reachable config session → Reachable config (session.filename script request).2
  | destination {session : Session} (script : Script) (request : Request) :
      Reachable config session → Reachable config (session.destination script request).2
  | rename {session : Session} (script : Script) (request : Request) :
      Reachable config session → Reachable config (session.rename script request).2

/-- A session without any scripts yet, whose store goes by the digest. -/
def fresh (config : Config) (digest : String → String) : Session :=
  { config, store := .empty config.cacheCapacity.toNat digest }

/--
What holds of a session at any time: its configuration and the digests of its store are the first
ones, and the store is honest about what it was asked for.
-/
structure Sound (config : Config) (digest : String → String) (asked : String → Prop)
    (session : Session) : Prop where
  config_eq : session.config = config
  digest_eq : session.store.digest = digest
  honest : session.store.Honest asked

section Steps

variable {config : Config} {digest : String → String} {asked : String → Prop} {session : Session}

theorem sound_fresh (config : Config) (digest : String → String) (asked : String → Prop) :
    Sound config digest asked (fresh config digest) :=
  ⟨rfl, rfl, ScriptStore.honest_empty _ _⟩

theorem Sound.check (h : Sound config digest asked session) {text : String} (htext : asked text) :
    Sound config digest asked (session.check text).2 :=
  ⟨h.config_eq, (ScriptStore.digest_get _ _).trans h.digest_eq, h.honest.get htext⟩

theorem Sound.reading_check (h : Sound config digest asked session)
    (hdigest : Distinguishes digest asked) {text : String} (htext : asked text) :
    ∃ number, (session.check text).1 = ScriptStore.parse text number :=
  h.honest.reading_get (by rwa [h.digest_eq]) htext

/-- Only a script that is not rejected is looked up, which is all that changes the session. -/
theorem session_of_ask {α : Type} (session : Session) (script : Script) (request : Request)
    (question : Program → Config → Request → Except RenameError α) :
    (session.ask script request question).2 =
      if (rejection? session.config script request).isSome then session
      else (session.check script.text).2 := by
  unfold ask
  cases rejection? session.config script request with
  | some reason => rfl
  | none =>
    dsimp only
    split <;> simp [*]

theorem Sound.ask {α : Type} (h : Sound config digest asked session) {script : Script}
    (hscript : asked script.text) (request : Request)
    (question : Program → Config → Request → Except RenameError α) :
    Sound config digest asked (session.ask script request question).2 := by
  rw [session_of_ask]
  split
  · exact h
  · exact h.check hscript

theorem Reachable.sound (h : Reachable config session) :
    Sound config id (fun _ => True) session := by
  induction h with
  | start => exact sound_fresh config id _
  | check text _ ih => exact ih.check trivial
  | filename script request _ ih => exact ih.ask trivial request _
  | destination script request _ ih => exact ih.ask trivial request _
  | rename script request _ ih => exact ih.ask trivial request _

end Steps

/-! ## Answers -/

/-- The answer to a question about a script, without any store. -/
def answer {α : Type} (config : Config) (script : Script) (request : Request)
    (question : Program → Config → Request → Except RenameError α) : Except RenameError α :=
  match rejection? config script request with
  | some reason => .error (.rejected reason)
  | none =>
    match Program.parse script.text with
    | .ok program => question program config request
    | .error error => .error (.parse error)

/-- A session whose digests tell scripts apart answers as if it had no store. -/
theorem Sound.ask_eq_answer {α : Type} {config : Config} {digest : String → String}
    {asked : String → Prop} {session : Session} (h : Sound config digest asked session)
    (hdigest : Distinguishes digest asked) {script : Script} (hscript : asked script.text)
    (request : Request) (question : Program → Config → Request → Except RenameError α) :
    (session.ask script request question).1 = answer config script request question := by
  have hcheck := h.reading_check hdigest hscript
  have hafter := (h.check hscript).config_eq
  unfold Session.ask answer
  rw [h.config_eq]
  cases rejection? config script request with
  | some reason => rfl
  | none =>
    -- The store may hand out an old reading, which says the same as a new one.
    generalize session.check script.text = checked at *
    obtain ⟨reading, after⟩ := checked
    obtain ⟨number, hreading⟩ := hcheck
    have hconfig : after.config = config := hafter
    have hread : reading = ScriptStore.parse script.text number := hreading
    rw [hread, ScriptStore.parse]
    cases Program.parse script.text with
    | error error => rfl
    | ok program =>
      show question program after.config request = question program config request
      rw [hconfig]

theorem ask_eq_answer {α : Type} {config : Config} {session : Session}
    (h : Reachable config session) (script : Script) (request : Request)
    (question : Program → Config → Request → Except RenameError α) :
    (session.ask script request question).1 = answer config script request question :=
  h.sound.ask_eq_answer (fun _ _ _ _ heq => heq) trivial request question

end Session

end MediaNaming
