import Mathlib.Logic.Function.Basic
import MediaNaming.Storage.Disk

/-!
# Runs of tasks on files

Every change of files may fail, so a task may end in several ways. The runs of a task are all of
them, wherever the paths lead; what the task does on a disk is one of its runs.
-/

namespace MediaNaming

/-! ## Files -/

/-- What files hold, by their places; nothing where there is no file. -/
abbrev Files (ι : Type) := ι → Option Content

/-- Bytes as the content of a file. -/
def Content.ofBytes (bytes : ByteArray) : Content :=
  match String.fromUTF8? bytes with
  | some value => .text value
  | none => .binary

section Runs

variable {ι : Type} [DecidableEq ι] {place : String → ι} {α β : Type}

/-! ## Changes -/

/--
What may come of a change where paths lead to places: whether it goes well, and what files hold
then. A change that fails leaves them as they are, but of a text the first bytes may be written.
-/
inductive FileChange.Outcome (place : String → ι) (files : Files ι) :
    FileChange → Bool → Files ι → Prop
  | created (path : String) :
      Outcome place files (.create path) true
        (Function.update files (place path) (some (.text "")))
  | written (path text : String) :
      Outcome place files (.write path text) true
        (Function.update files (place path) (some (.text text)))
  | cut (path text : String) (count : Nat) :
      Outcome place files (.write path text) false
        (Function.update files (place path) (some (.ofBytes (text.toUTF8.extract 0 count))))
  | synced (path : String) : Outcome place files (.sync path) true files
  | moved (source target : String) {content : Content} (h : files (place source) = some content) :
      Outcome place files (.move source target) true
        (Function.update (Function.update files (place source) none) (place target) (some content))
  | failed (change : FileChange) : Outcome place files change false files

namespace FileChange

/-- The paths of the files that a change may touch. -/
def paths : FileChange → List String
  | create path | write path _ | sync path => [path]
  | move source target => [source, target]

variable {before after : Files ι} {path : String}

theorem Outcome.frame {c : FileChange} {success : Bool} {other : ι}
    (h : c.Outcome place before success after)
    (hother : ∀ path ∈ c.paths, other ≠ place path) : after other = before other := by
  cases h with
  | created path | written path | cut path =>
    exact Function.update_of_ne (hother path List.mem_cons_self) _ _
  | synced | failed => rfl
  | moved source target =>
    rw [Function.update_of_ne (hother target (List.mem_cons_of_mem _ List.mem_cons_self)),
      Function.update_of_ne (hother source List.mem_cons_self)]

theorem created_iff : (create path).Outcome place before true after ↔
    after = Function.update before (place path) (some (.text "")) := by
  constructor
  · rintro ⟨⟩
    rfl
  · rintro rfl
    exact .created path

theorem written_iff {text : String} : (write path text).Outcome place before true after ↔
    after = Function.update before (place path) (some (.text text)) := by
  constructor
  · rintro ⟨⟩
    rfl
  · rintro rfl
    exact .written path text

theorem synced_iff : (sync path).Outcome place before true after ↔ after = before := by
  constructor
  · rintro ⟨⟩
    rfl
  · rintro rfl
    exact .synced path

theorem moved_iff {source target : String} :
    (move source target).Outcome place before true after ↔
      ∃ content, before (place source) = some content ∧ after =
        Function.update (Function.update before (place source) none) (place target)
          (some content) := by
  constructor
  · rintro ⟨⟩
    next content h => exact ⟨content, h, rfl⟩
  · rintro ⟨content, h, rfl⟩
    exact .moved source target h

theorem not_moved_iff {source target : String} :
    (move source target).Outcome place before false after ↔ after = before := by
  constructor
  · rintro ⟨⟩
    rfl
  · rintro rfl
    exact .failed _

end FileChange

/-! ## Tasks -/

namespace FileTask

/-- A task that finds files as they are `before` may end with the result and leave them `after`. -/
inductive Ends (place : String → ι) : Files ι → FileTask α → α → Files ι → Prop
  | done {files : Files ι} {result : α} : Ends place files (.done result) result files
  | read {before after : Files ι} {path : String} {next : Option Content → FileTask α} {result : α}
      (h : Ends place before (next (before (place path))) result after) :
      Ends place before (.read path next) result after
  | change {before middle after : Files ι} {c : FileChange} {success : Bool}
      {next : Bool → FileTask α} {result : α} (hc : c.Outcome place before success middle)
      (h : Ends place middle (next success) result after) :
      Ends place before (.change c next) result after

variable {before after : Files ι}

theorem ends_done_iff {a result : α} :
    Ends place before (.done a) result after ↔ result = a ∧ after = before := by
  constructor
  · rintro ⟨⟩
    exact ⟨rfl, rfl⟩
  · rintro ⟨rfl, rfl⟩
    exact .done

theorem ends_readFile_iff {path : String} {result : Option Content} :
    Ends place before (readFile path) result after ↔
      result = before (place path) ∧ after = before := by
  constructor
  · rintro ⟨⟩
    next h => exact ends_done_iff.mp h
  · intro h
    exact .read (ends_done_iff.mpr h)

/-- A task that goes on with the result of another one begins where this ends. -/
theorem ends_bind_iff {task : FileTask α} {f : α → FileTask β} {result : β} :
    Ends place before (task >>= f) result after ↔
      ∃ a middle, Ends place before task a middle ∧ Ends place middle (f a) result after := by
  constructor
  · intro h
    change Ends place before (task.bind f) result after at h
    -- The bind recurs on the first task, so the run is taken apart along it.
    induction task generalizing before with
    | done a => exact ⟨a, before, .done, h⟩
    | read path next ih =>
      cases h with
      | read h =>
        obtain ⟨a, middle, htask, hrest⟩ := ih _ h
        exact ⟨a, middle, .read htask, hrest⟩
    | change c next ih =>
      cases h with
      | change hc h =>
        obtain ⟨a, middle, htask, hrest⟩ := ih _ h
        exact ⟨a, middle, .change hc htask, hrest⟩
  · rintro ⟨a, middle, htask, hrest⟩
    change Ends place before (task.bind f) result after
    induction htask with
    | done => exact hrest
    | read h ih => exact .read (ih hrest)
    | change hc h ih => exact .change hc (ih hrest)

theorem ends_changeAll_nil {result : Option FileChange} :
    Ends place before (changeAll []) result after ↔ result = none ∧ after = before :=
  ends_done_iff

/-- Changes go on behind one that goes well, and end with one that fails. -/
theorem ends_changeAll_cons {c : FileChange} {cs : List FileChange} {result : Option FileChange} :
    Ends place before (changeAll (c :: cs)) result after ↔
      (∃ middle, c.Outcome place before true middle ∧
        Ends place middle (changeAll cs) result after) ∨
      result = some c ∧ c.Outcome place before false after := by
  constructor
  · rintro ⟨⟩
    next middle success hc h =>
    cases success with
    | true => exact .inl ⟨middle, hc, h⟩
    | false =>
      obtain ⟨rfl, rfl⟩ := ends_done_iff.mp h
      exact .inr ⟨rfl, hc⟩
  · rintro (⟨middle, hc, h⟩ | ⟨rfl, hc⟩)
    · exact .change hc h
    · exact .change hc .done

/-- More changes go on where the first ones have all gone well. -/
theorem ends_changeAll_append {cs ds : List FileChange} {result : Option FileChange} :
    Ends place before (changeAll (cs ++ ds)) result after ↔
      (∃ middle, Ends place before (changeAll cs) none middle ∧
        Ends place middle (changeAll ds) result after) ∨
      result ≠ none ∧ Ends place before (changeAll cs) result after := by
  induction cs generalizing before with
  | nil =>
    rw [List.nil_append]
    simp only [ends_changeAll_nil]
    constructor
    · exact fun h => .inl ⟨before, ⟨trivial, rfl⟩, h⟩
    · rintro (⟨middle, ⟨-, rfl⟩, h⟩ | ⟨hresult, hnone, -⟩)
      · exact h
      · exact absurd hnone hresult
  | cons c cs ih =>
    simp only [List.cons_append, ends_changeAll_cons, ih]
    constructor
    · rintro (⟨middle, hc, ⟨last, hcs, hds⟩ | ⟨hresult, hcs⟩⟩ | ⟨rfl, hc⟩)
      · exact .inl ⟨last, .inl ⟨middle, hc, hcs⟩, hds⟩
      · exact .inr ⟨hresult, .inl ⟨middle, hc, hcs⟩⟩
      · exact .inr ⟨Option.some_ne_none c, .inr ⟨rfl, hc⟩⟩
    · rintro (⟨last, ⟨middle, hc, hcs⟩ | ⟨hnone, -⟩, hds⟩ | ⟨hresult, ⟨middle, hc, hcs⟩ | hc⟩)
      · exact .inl ⟨middle, hc, .inl ⟨last, hcs, hds⟩⟩
      · cases hnone
      · exact .inl ⟨middle, hc, .inr ⟨hresult, hcs⟩⟩
      · exact .inr hc

/-- Changes leave alone what no path of theirs leads to, however they end. -/
theorem changeAll_frame {cs : List FileChange} {result : Option FileChange} {other : ι}
    (h : Ends place before (changeAll cs) result after)
    (hother : ∀ c ∈ cs, ∀ path ∈ c.paths, other ≠ place path) : after other = before other := by
  induction cs generalizing before with
  | nil => rw [(ends_changeAll_nil.mp h).2]
  | cons c cs ih =>
    obtain ⟨hfirst, hrest⟩ := List.forall_mem_cons.mp hother
    rcases ends_changeAll_cons.mp h with ⟨middle, hc, h⟩ | ⟨-, hc⟩
    · rw [ih h hrest, hc.frame hfirst]
    · exact hc.frame hfirst

end FileTask

end Runs

/-! ## Disks -/

namespace Disk

variable {disk changed : Disk} {place other : Place} {path : String}

/-- What the files of a disk hold, by what their paths lead to. -/
def files (disk : Disk) : Files (Option Place) := fun place? =>
  match place?.bind disk.node? with
  | some (.file content) => some content
  | _ => none

/-! ### Single nodes -/

theorem lookup_filter_ne {nodes : List (Place × DiskNode)} (h : other ≠ place) :
    (nodes.filter (·.1 != place)).lookup other = nodes.lookup other := by
  induction nodes with
  | nil => rfl
  | cons node nodes ih =>
    by_cases hnode : node.1 = place
    · have hother : (other == node.1) = false := by simpa [hnode] using h
      rw [List.filter_cons_of_neg (by simpa using hnode), ih, List.lookup_cons, hother]
    · rw [List.filter_cons_of_pos (by simpa using hnode), List.lookup_cons, List.lookup_cons, ih]

theorem node?_put (h : place ≠ []) (node : DiskNode) (other : Place) :
    (disk.put place node).node? other = if other = place then some node else disk.node? other := by
  by_cases hother : other = place
  · have hempty : place.isEmpty = false := by simpa using h
    rw [if_pos hother, hother, node?, hempty, if_neg Bool.false_ne_true, put,
      List.lookup_cons, beq_self_eq_true]
  · have hne : (other == place) = false := by simpa using hother
    rw [if_neg hother, node?, node?, put, List.lookup_cons, hne, lookup_filter_ne hother]

theorem node?_remove (h : place ≠ []) (other : Place) :
    (disk.remove place).node? other = if other = place then none else disk.node? other := by
  by_cases hother : other = place
  · have hempty : place.isEmpty = false := by simpa using h
    have hlookup : (disk.nodes.filter (·.1 != place)).lookup place = none := by
      rw [List.lookup_eq_none_iff]
      intro node hnode
      have hne : node.1 ≠ place := by simpa using (List.mem_filter.mp hnode).2
      simpa using hne.symm
    rw [if_pos hother, hother, node?, hempty, if_neg Bool.false_ne_true, remove, hlookup]
  · rw [if_neg hother, node?, node?, remove, lookup_filter_ne hother]

theorem ne_nil_of_not_directory (h : disk.isDirectory place = false) : place ≠ [] := by
  rintro rfl
  cases h

theorem isDirectory_put (h : disk.isDirectory place = false) (content : Content) (other : Place) :
    (disk.put place (.file content)).isDirectory other = disk.isDirectory other := by
  rw [isDirectory, node?_put (ne_nil_of_not_directory h)]
  split
  · next hother => rw [hother, h]; rfl
  · rfl

theorem isDirectory_remove (h : disk.isDirectory place = false) (other : Place) :
    (disk.remove place).isDirectory other = disk.isDirectory other := by
  rw [isDirectory, node?_remove (ne_nil_of_not_directory h)]
  split
  · next hother => rw [hother, h]; rfl
  · rfl

theorem files_put (h : place ≠ []) (content : Content) :
    (disk.put place (.file content)).files =
      Function.update disk.files (some place) (some content) := by
  funext place?
  cases place? with
  | none => rfl
  | some other =>
    rw [files, Option.bind_some, node?_put h, Function.update_apply]
    by_cases hother : other = place
    · rw [if_pos hother, if_pos (congrArg some hother)]
    · rw [if_neg hother, if_neg (fun heq => hother (Option.some.inj heq))]
      rfl

theorem files_remove (h : place ≠ []) :
    (disk.remove place).files = Function.update disk.files (some place) none := by
  funext place?
  cases place? with
  | none => rfl
  | some other =>
    rw [files, Option.bind_some, node?_remove h, Function.update_apply]
    by_cases hother : other = place
    · rw [if_pos hother, if_pos (congrArg some hother)]
    · rw [if_neg hother, if_neg (fun heq => hother (Option.some.inj heq))]
      rfl

/-! ### Paths -/

theorem follow_congr (h : ∀ other, changed.isDirectory other = disk.isDirectory other)
    (names : List String) (place : Place) :
    changed.follow place names = disk.follow place names := by
  induction names generalizing place with
  | nil => rfl
  | cons name names ih => simp only [follow, h, ih]

/-- Paths lead where they did as long as the directories stay. -/
theorem place?_congr (h : ∀ other, changed.isDirectory other = disk.isDirectory other)
    (hwork : changed.workingDirectory = disk.workingDirectory) :
    changed.place? = disk.place? := by
  funext path
  rw [place?, place?, hwork, follow_congr h]

theorem filePlace?_eq_some_iff :
    disk.filePlace? path = some place ↔
      disk.place? path = some place ∧ disk.isDirectory place = false := by
  rw [filePlace?, Option.filter_eq_some_iff, Bool.not_eq_true']

/-! ### Changes -/

/-- What a disk does is one of the outcomes, and paths lead where they did. -/
theorem outcome_of_change? {c : FileChange} (h : disk.change? c = some changed) :
    c.Outcome disk.place? disk.files true changed.files ∧ changed.place? = disk.place? := by
  cases c with
  | create path =>
    obtain ⟨place, hplace, hchanged⟩ := Option.bind_eq_some_iff.mp h
    obtain ⟨hpath, hfile⟩ := filePlace?_eq_some_iff.mp hplace
    cases hchanged
    rw [files_put (ne_nil_of_not_directory hfile), ← hpath]
    exact ⟨.created path, place?_congr (isDirectory_put hfile _) rfl⟩
  | write path text =>
    obtain ⟨place, hplace, hchanged⟩ := Option.bind_eq_some_iff.mp h
    obtain ⟨hpath, hfile⟩ := filePlace?_eq_some_iff.mp hplace
    cases hchanged
    rw [files_put (ne_nil_of_not_directory hfile), ← hpath]
    exact ⟨.written path text, place?_congr (isDirectory_put hfile _) rfl⟩
  | sync path =>
    obtain ⟨place, hplace, hchanged⟩ := Option.bind_eq_some_iff.mp h
    cases hchanged
    exact ⟨.synced path, rfl⟩
  | move source target =>
    obtain ⟨start, hstart, h⟩ := Option.bind_eq_some_iff.mp h
    obtain ⟨content, hcontent, h⟩ := Option.bind_eq_some_iff.mp h
    obtain ⟨goal, hgoal, hchanged⟩ := Option.bind_eq_some_iff.mp h
    obtain ⟨hsource, hfile⟩ := filePlace?_eq_some_iff.mp hstart
    obtain ⟨htarget, hfree⟩ := filePlace?_eq_some_iff.mp hgoal
    -- The target was looked up before the source went, which was no directory on the way there.
    have hgone := isDirectory_remove hfile
    have hput := isDirectory_put ((hgone goal).trans hfree) content
    cases hchanged
    rw [files_put (ne_nil_of_not_directory hfree), files_remove (ne_nil_of_not_directory hfile),
      ← hsource, ← htarget]
    exact ⟨.moved source target hcontent,
      place?_congr (fun other => (hput other).trans (hgone other)) rfl⟩

end Disk

namespace FileTask

variable {α : Type}

/-- What a task does on a disk is one of its runs. -/
theorem ends_run (task : FileTask α) (disk : Disk) :
    Ends disk.place? disk.files task (task.run disk).1 (task.run disk).2.files := by
  induction task generalizing disk with
  | done result => exact .done
  | read path next ih => exact .read (ih _ disk)
  | change c next ih =>
    rw [run]
    split
    · next changed hchanged =>
      obtain ⟨houtcome, hplace⟩ := Disk.outcome_of_change? hchanged
      exact .change houtcome (hplace ▸ ih true changed)
    · exact .change (.failed c) (ih false disk)

/-- Tasks make no directories and remove none, so paths still lead where they did. -/
theorem place?_run (task : FileTask α) (disk : Disk) :
    (task.run disk).2.place? = disk.place? := by
  induction task generalizing disk with
  | done result => rfl
  | read path next ih => exact ih _ disk
  | change c next ih =>
    rw [run]
    split
    · next changed hchanged =>
      rw [ih true changed, (Disk.outcome_of_change? hchanged).2]
    · exact ih false disk

end FileTask

end MediaNaming
