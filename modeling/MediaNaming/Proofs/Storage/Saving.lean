import MediaNaming.Config
import MediaNaming.Proofs.Json.Requests
import MediaNaming.Proofs.Paths.NewExtensions
import MediaNaming.Proofs.Storage.Runs

/-!
# Saved configurations

A configuration is written into a temporary file, which then takes its place. Whatever fails on the
way, no other file is touched; and what was saved is loaded again.
-/

namespace MediaNaming.Config

open FileChange FileTask Json

/-! ## Text -/

theorem encodes (config : Config) : Encodes ofJson? config.toJson config :=
  encodes_record rfl (by decide) <|
    .fieldOr (encodes_text rfl) <|
    .fieldOr (encodes_bool _) <|
    .fieldOr (encodes_bool _) <|
    .fieldOr (encodes_uint64 _) <|
    .done

/-- A configuration is read back from its text. -/
theorem ofContent?_toText (config : Config) : ofContent? (.text config.toText) = some config := by
  obtain ⟨hplain, hrestores⟩ := config.encodes
  rw [ofContent?, toText, read?_pretty hplain, Option.bind_some]
  exact hrestores.decode_eq

/-! ## Loading -/

/-- What loading gives where the file at a path holds the content, or where there is no file. -/
def loaded (path : String) : Option Content → Except ConfigError Config
  | none => .error (.unreadable path)
  | some content =>
    match ofContent? content with
    | none => .error .malformed
    | some config => .ok config

theorem loaded_toText (config : Config) (path : String) :
    loaded path (some (.text config.toText)) = .ok config := by
  rw [loaded, ofContent?_toText]

section Runs

variable {ι : Type} [DecidableEq ι] {place : String → ι} {before after : Files ι}
  {config : Config} {path : String}

theorem ends_load_iff {result : Except ConfigError Config} :
    Ends place before (load path) result after ↔
      result = loaded path (before (place path)) ∧ after = before := by
  have hload : load path = readFile path >>= fun content => .done (loaded path content) := by
    unfold load
    congr 1
    funext content
    cases content with
    | none => rfl
    | some content =>
      dsimp only [loaded]
      cases ofContent? content <;> rfl
  simp only [hload, ends_bind_iff, ends_readFile_iff, ends_done_iff]
  constructor
  · rintro ⟨content, middle, ⟨rfl, rfl⟩, hresult, hafter⟩
    exact ⟨hresult, hafter⟩
  · rintro ⟨hresult, hafter⟩
    exact ⟨_, _, ⟨rfl, rfl⟩, hresult, hafter⟩

/-! ## Saving -/

/-- The changes that come before the temporary file takes its place. -/
def preparing (config : Config) (path : String) : List FileChange := [
  .create (temporaryPath path),
  .write (temporaryPath path) config.toText,
  .sync (temporaryPath path)]

theorem saving_eq (config : Config) (path : String) :
    config.saving path = config.preparing path ++ [.move (temporaryPath path) path] := rfl

theorem eq_temporaryPath {c : FileChange} {other : String} (hc : c ∈ config.preparing path)
    (hother : other ∈ c.paths) : other = temporaryPath path := by
  simp only [preparing, List.mem_cons, List.not_mem_nil, or_false] at hc
  rcases hc with rfl | rfl | rfl <;> exact List.mem_singleton.mp hother

/-- Preparations touch nothing but the temporary file. -/
theorem preparing_frame {result : Option FileChange} {other : ι}
    (h : Ends place before (changeAll (config.preparing path)) result after)
    (hother : other ≠ place (temporaryPath path)) : after other = before other :=
  changeAll_frame h fun _ hc _ hpath => eq_temporaryPath hc hpath ▸ hother

/-- The temporary file holds the configuration once it is prepared. -/
theorem prepared (h : Ends place before (changeAll (config.preparing path)) none after) :
    after (place (temporaryPath path)) = some (.text config.toText) := by
  simp only [preparing, ends_changeAll_cons, ends_changeAll_nil, created_iff, written_iff,
    synced_iff, reduceCtorEq, false_and, or_false, true_and] at h
  obtain ⟨_, rfl, _, rfl, _, rfl, rfl⟩ := h
  exact Function.update_self _ _ _

theorem exists_prepared (place : String → ι) (before : Files ι) (config : Config) (path : String) :
    ∃ after, Ends place before (changeAll (config.preparing path)) none after :=
  ⟨_, .change (.created _) <| .change (.written _ _) <| .change (.synced _) .done⟩

/-- What saving gives for the change that failed, if there is one. -/
def saved : Option FileChange → Except ConfigError Unit
  | none => .ok ()
  | some c => .error (.failed c)

theorem ends_save_iff {result : Except ConfigError Unit} :
    Ends place before (config.save path) result after ↔
      ∃ failure, Ends place before (changeAll (config.saving path)) failure after ∧
        result = saved failure := by
  have hsave : config.save path =
      changeAll (config.saving path) >>= fun failure => .done (saved failure) := by
    unfold save
    congr 1
    funext failure
    cases failure <;> rfl
  simp only [hsave, ends_bind_iff, ends_done_iff]
  constructor
  · rintro ⟨failure, middle, hsaving, hresult, rfl⟩
    exact ⟨failure, hsaving, hresult⟩
  · rintro ⟨failure, hsaving, hresult⟩
    exact ⟨failure, after, hsaving, hresult, rfl⟩

/-- Where all goes well, the temporary file is prepared and takes its place. -/
theorem ends_save_ok_iff :
    Ends place before (config.save path) (.ok ()) after ↔
      ∃ middle, Ends place before (changeAll (config.preparing path)) none middle ∧
        after = Function.update (Function.update middle (place (temporaryPath path)) none)
          (place path) (some (.text config.toText)) := by
  have hok (failure : Option FileChange) : .ok () = saved failure ↔ failure = none := by
    cases failure <;> simp [saved]
  simp only [ends_save_iff, hok, exists_eq_right, saving_eq, ends_changeAll_append,
    ends_changeAll_cons, ends_changeAll_nil, moved_iff, ne_eq, not_true_eq_false, reduceCtorEq,
    false_and, or_false, true_and]
  constructor
  · rintro ⟨middle, hprepared, _, ⟨content, hcontent, rfl⟩, rfl⟩
    -- What is moved is what was written just before.
    obtain rfl := Option.some.inj ((prepared hprepared).symm.trans hcontent)
    exact ⟨middle, hprepared, rfl⟩
  · rintro ⟨middle, hprepared, rfl⟩
    exact ⟨middle, hprepared, _, ⟨_, prepared hprepared, rfl⟩, rfl⟩

/-- Where a change fails, nothing but the temporary file is touched. -/
theorem not_saved_frame {error : ConfigError} {other : ι}
    (h : Ends place before (config.save path) (.error error) after)
    (hother : other ≠ place (temporaryPath path)) : after other = before other := by
  obtain ⟨failure, hsaving, hresult⟩ := ends_save_iff.mp h
  rw [saving_eq, ends_changeAll_append] at hsaving
  -- Either the move fails, which touches nothing, or one of the changes before it does.
  rcases hsaving with ⟨middle, hprepared, hmove⟩ | ⟨-, hpreparing⟩
  · rcases ends_changeAll_cons.mp hmove with ⟨_, -, hdone⟩ | ⟨-, hfailed⟩
    · obtain ⟨rfl, -⟩ := ends_changeAll_nil.mp hdone
      cases hresult
    · rw [not_moved_iff.mp hfailed, preparing_frame hprepared hother]
  · exact preparing_frame hpreparing hother

end Runs

/-- On a disk what was saved is loaded again. -/
theorem load_run_save {config : Config} {path : String} {disk : Disk}
    (h : ((config.save path).run disk).1 = .ok ()) :
    ((load path).run ((config.save path).run disk).2).1 = .ok config := by
  obtain ⟨middle, -, hafter⟩ := ends_save_ok_iff.mp (h ▸ ends_run (config.save path) disk)
  rw [(ends_load_iff.mp (ends_run (load path) _)).1, place?_run, hafter, Function.update_self,
    loaded_toText]

/-! ## Files that are replaced -/

/-- A temporary file is another one, unless the path has its extension. -/
theorem normal_temporaryPath_ne {path : String} (hname : Path.fileName? path ≠ none)
    (hother : Path.extension path ≠ ".tmp") :
    Path.normal (temporaryPath path) ≠ Path.normal path :=
  Path.normal_withExtension_ne hname hother (by decide) (by decide) (by decide)

/--
Saving can go well wherever paths lead to. Then the configuration is loaded from where it was saved,
the temporary file is gone, and no other file is touched. Where saving fails, nothing but the
temporary file is touched, which is not the one at the path unless this ends in `.tmp`.
-/
theorem save_replaces_file {ι : Type} [DecidableEq ι] (place : String → ι) (config : Config)
    (path : String) :
    (∀ before, ∃ after, Ends place before (config.save path) (.ok ()) after) ∧
    (∀ before after, Ends place before (config.save path) (.ok ()) after →
      (∀ result final, Ends place after (load path) result final ↔
        result = .ok config ∧ final = after) ∧
      (place (temporaryPath path) ≠ place path → after (place (temporaryPath path)) = none) ∧
      ∀ other, other ≠ place path → other ≠ place (temporaryPath path) →
        after other = before other) ∧
    (∀ before after error, Ends place before (config.save path) (.error error) after →
      ∀ other, other ≠ place (temporaryPath path) → after other = before other) ∧
    (Path.fileName? path ≠ none → Path.extension path ≠ ".tmp" →
      Path.normal (temporaryPath path) ≠ Path.normal path) := by
  refine ⟨?possible, ?saved, fun _ _ _ h _ => not_saved_frame h, normal_temporaryPath_ne⟩
  case possible =>
    intro before
    obtain ⟨middle, hprepared⟩ := exists_prepared place before config path
    exact ⟨_, ends_save_ok_iff.mpr ⟨middle, hprepared, rfl⟩⟩
  case saved =>
    intro before after h
    obtain ⟨middle, hprepared, rfl⟩ := ends_save_ok_iff.mp h
    refine ⟨fun result final => ?_, fun hne => ?_, fun other hpath htemporary => ?_⟩
    · rw [ends_load_iff, Function.update_self, loaded_toText]
    · rw [Function.update_of_ne hne, Function.update_self]
    · rw [Function.update_of_ne hpath, Function.update_of_ne htemporary,
        preparing_frame hprepared htemporary]

/-- On a disk a file is replaced; a text that is cut off stays behind in the temporary file. -/
theorem save_replaces_file_of_cut :
    let config : Config := { cacheCapacity := 3 }
    let disk : Disk := {
      nodes := [(["a.json"], .file (.text "old")), (["notes"], .file (.text "keep"))] }
    let run := (config.save "/a.json").run disk
    let cut := Function.update
      (Function.update disk.files (disk.place? "/a.tmp") (some (.text "")))
      (disk.place? "/a.tmp") (some (.ofBytes (config.toText.toUTF8.extract 0 5)))
    (run.1 = .ok () ∧
      (∀ result final, Ends disk.place? run.2.files (load "/a.json") result final ↔
        result = .ok config ∧ final = run.2.files) ∧
      run.2.files (disk.place? "/a.tmp") = none ∧
      run.2.files (disk.place? "/notes") = some (.text "keep")) ∧
    (Ends disk.place? disk.files (config.save "/a.json")
        (.error (.failed (.write "/a.tmp" config.toText))) cut ∧
      cut (disk.place? "/a.json") = some (.text "old")) ∧
    Path.normal "/a.tmp" ≠ Path.normal "/a.json" := by
  intro config disk run cut
  have htemporary : temporaryPath "/a.json" = "/a.tmp" := by decide +kernel
  have hplaces : disk.place? "/a.tmp" ≠ disk.place? "/a.json" := by decide +kernel
  obtain ⟨-, hsaved, hfailed, hother⟩ :=
    save_replaces_file disk.place? config "/a.json"
  have hok : run.1 = .ok () := by decide +kernel
  have hcut : Ends disk.place? disk.files (config.save "/a.json")
      (.error (.failed (.write "/a.tmp" config.toText))) cut := by
    refine ends_save_iff.mpr ⟨some (.write "/a.tmp" config.toText), ?_, rfl⟩
    rw [saving, htemporary]
    exact .change (.created _) <| .change (.cut _ _ 5) .done
  obtain ⟨hload, hgone, hrest⟩ := hsaved _ _ (hok ▸ ends_run (config.save "/a.json") disk)
  rw [htemporary] at hgone hrest hother
  refine ⟨⟨hok, hload, hgone hplaces, ?_⟩, ⟨hcut, ?_⟩,
    hother (by decide +kernel) (by decide +kernel)⟩
  · exact hrest _ (by decide +kernel) (by decide +kernel)
  · exact hfailed _ _ _ hcut _ (by rw [htemporary]; exact hplaces.symm)

/--
What another file at the temporary path held is lost. What a file that ends in `.tmp` held is lost
even where it could not be replaced.
-/
theorem save_can_touch_others :
    (∃ before after, Ends Path.normal before (save {} "a.json") (.ok ()) after ∧
      Path.normal "a.tmp" ≠ Path.normal "a.json" ∧
      before (Path.normal "a.tmp") = some (.text "notes") ∧
      after (Path.normal "a.tmp") = none) ∧
    ∃ before after error, Ends Path.normal before (save {} "b.tmp") (.error error) after ∧
      before (Path.normal "b.tmp") = some (.text "old") ∧
      after (Path.normal "b.tmp") = some (.text "") := by
  have hpath : temporaryPath "a.json" = "a.tmp" := by decide +kernel
  have hsame : temporaryPath "b.tmp" = "b.tmp" := by decide +kernel
  have hne : Path.normal "a.tmp" ≠ Path.normal "a.json" := by decide +kernel
  constructor
  · obtain ⟨middle, hprepared⟩ :=
      exists_prepared Path.normal (fun _ => some (.text "notes")) {} "a.json"
    refine ⟨_, _, ends_save_ok_iff.mpr ⟨middle, hprepared, rfl⟩, hne, rfl, ?_⟩
    rw [hpath, Function.update_of_ne hne, Function.update_self]
  · refine ⟨fun _ => some (.text "old"),
      Function.update _ (Path.normal (temporaryPath "b.tmp")) (some (.text "")), _,
      ends_save_iff.mpr ⟨some _, .change (.created _) <| .change (.failed _) .done, rfl⟩, rfl, ?_⟩
    rw [hsame, Function.update_self]

end MediaNaming.Config
