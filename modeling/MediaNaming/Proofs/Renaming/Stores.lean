import MediaNaming.Proofs.Renaming.Sessions
import Mathlib.Data.List.DropRight

/-!
# Stores keep the scripts that came last

A store is a queue of bounded length with a map beside it. The two hold the same digests at any
time, and they are those of the scripts that were last not found, whatever the store was asked for
and whenever it was cleared. A script that is found is read as it was when it came in, and every
other one is read anew.
-/

namespace MediaNaming

/-! ## Queues and maps in step -/

/-- The queue holds the keys of the map, each once. -/
structure InStep (readings : StoredReadings) (order : List String) : Prop where
  nodup : order.Nodup
  mem_iff : ∀ key, key ∈ order ↔ key ∈ readings

namespace InStep

variable {readings : StoredReadings} {order : List String}

theorem empty : InStep ∅ [] :=
  ⟨List.nodup_nil, fun key => by simp⟩

theorem size_eq (h : InStep readings order) : readings.size = order.length := by
  have hperm : readings.keys.Perm order :=
    (List.perm_ext_iff_of_nodup Std.HashMap.nodup_keys h.nodup).mpr fun key => by
      rw [Std.HashMap.mem_keys, h.mem_iff]
  rw [← Std.HashMap.length_keys, hperm.length_eq]

theorem erase {oldest : String} (h : InStep readings (oldest :: order)) :
    InStep (readings.erase oldest) order where
  nodup := h.nodup.of_cons
  mem_iff key := by
    have hfresh : oldest ∉ order := (List.nodup_cons.mp h.nodup).1
    rw [Std.HashMap.mem_erase, ← h.mem_iff, List.mem_cons, beq_eq_false_iff_ne]
    constructor
    · intro hkey
      exact ⟨fun heq => hfresh (heq ▸ hkey), .inr hkey⟩
    · rintro ⟨hne, rfl | hkey⟩
      · exact absurd rfl hne
      · exact hkey

theorem insert {key : String} (h : InStep readings order) (hkey : key ∉ readings)
    (reading : Reading) : InStep (readings.insert key reading) (order ++ [key]) where
  nodup := by
    refine List.nodup_append.mpr ⟨h.nodup, by simp, fun other hother last hlast heq => ?_⟩
    rw [List.mem_singleton] at hlast
    exact hkey ((h.mem_iff key).mp (by rwa [← hlast, ← heq]))
  mem_iff other := by
    rw [Std.HashMap.mem_insert, List.mem_append, List.mem_singleton, h.mem_iff, beq_iff_eq,
      or_comm, eq_comm]

/-- Those who leave do so in both. -/
theorem evict (h : InStep readings order) (capacity : Nat) :
    InStep (ScriptStore.evict capacity readings order).1
      (ScriptStore.evict capacity readings order).2 := by
  induction order generalizing readings with
  | nil => exact h
  | cons oldest order ih =>
    unfold ScriptStore.evict
    split
    · exact ih h.erase
    · exact h

/-- Those who stay are in the map as before. -/
theorem getElem?_evict (h : InStep readings order) {capacity : Nat} {key : String}
    (hkey : key ∈ (ScriptStore.evict capacity readings order).2) :
    (ScriptStore.evict capacity readings order).1[key]? = readings[key]? := by
  have hmem := ((h.evict capacity).mem_iff key).mp hkey
  obtain ⟨reading, hreading⟩ :=
    Option.isSome_iff_exists.mp (Std.HashMap.mem_iff_isSome_getElem?.mp hmem)
  rw [hreading, ScriptStore.getElem?_of_evict hreading]

end InStep

theorem ScriptStore.not_mem_evict {capacity : Nat} {readings : StoredReadings}
    {order : List String} {key : String} (hkey : key ∉ readings) :
    key ∉ (evict capacity readings order).1 := by
  intro hmem
  obtain ⟨reading, hreading⟩ :=
    Option.isSome_iff_exists.mp (Std.HashMap.mem_iff_isSome_getElem?.mp hmem)
  exact hkey (Std.HashMap.mem_iff_isSome_getElem?.mpr (by simp [getElem?_of_evict hreading]))

/-- Room for one more is made by keeping the last ones. -/
theorem ScriptStore.order_evict (capacity : Nat) (readings : StoredReadings)
    (order : List String) : (evict capacity readings order).2 = order.rtake (capacity - 1) := by
  induction order generalizing readings with
  | nil => simp [evict]
  | cons oldest order ih =>
    unfold evict
    split
    · have hlength : order.length + 1 - (capacity - 1) = order.length - (capacity - 1) + 1 := by
        omega
      rw [ih, List.rtake, List.rtake, List.length_cons, hlength, List.drop_succ_cons]
    · have hlength : order.length + 1 - (capacity - 1) = 0 := by omega
      rw [List.rtake, List.length_cons, hlength, List.drop_zero]

/-- The last ones of a longer list are among the last ones and the new one. -/
theorem rtake_rtake_concat {α : Type} (l : List α) (n : Nat) (a : α) :
    (l.rtake n ++ [a]).rtake n = (l ++ [a]).rtake n := by
  cases n with
  | zero => simp [List.rtake]
  | succ n =>
    rw [List.rtake_concat_succ, List.rtake_concat_succ]
    simp only [List.rtake, List.length_drop, List.drop_drop]
    congr 2
    omega

theorem length_rtake_le {α : Type} (l : List α) (n : Nat) : (l.rtake n).length ≤ n := by
  simp only [List.rtake, List.length_drop]
  omega

/-! ## What a store holds -/

namespace ScriptStore

/-- The store holds these scripts with their readings, the oldest first, and no others. -/
structure Holds (store : ScriptStore) (entries : List (String × Reading)) : Prop where
  inStep : InStep store.readings store.order
  order_eq : store.order = entries.map fun entry => store.digest entry.1
  find?_eq : ∀ script reading, (script, reading) ∈ entries → store.find? script = some reading

variable {store : ScriptStore} {entries : List (String × Reading)} {script : String}
  {reading : Reading}

theorem holds_of_order_eq_nil (hreadings : store.readings = ∅) (horder : store.order = []) :
    store.Holds [] where
  inStep := by
    rw [hreadings, horder]
    exact .empty
  order_eq := horder
  find?_eq := nofun

/-- A script is found if and only if it is one of those that the store holds. -/
theorem Holds.find?_iff (h : store.Holds entries) {asked : String → Prop}
    (hdigest : Distinguishes store.digest asked) (hasked : ∀ entry ∈ entries, asked entry.1)
    (hscript : asked script) : store.find? script = some reading ↔ (script, reading) ∈ entries := by
  refine ⟨fun hfind => ?_, h.find?_eq script reading⟩
  have hmem : store.digest script ∈ store.readings :=
    Std.HashMap.mem_iff_isSome_getElem?.mpr (Option.isSome_of_eq_some hfind)
  rw [← h.inStep.mem_iff, h.order_eq, List.mem_map] at hmem
  obtain ⟨⟨other, stored⟩, hentry, hsame⟩ := hmem
  -- The digest is that of a script that is held, which can only be this one.
  have hother := hdigest other script (hasked _ hentry) hscript hsame
  subst hother
  have hstored := h.find?_eq _ _ hentry
  rw [hfind, Option.some.injEq] at hstored
  rwa [hstored]

theorem get_of_found (hfind : store.find? script = some reading) :
    store.get script = (reading, store) := by
  rw [get, hfind]

theorem reading_get_of_not_found (hfind : store.find? script = none) :
    (store.get script).1 = parse script store.nextNumber := by
  rw [get, hfind]
  dsimp only
  split <;> rfl

theorem nextNumber_get_of_not_found (hfind : store.find? script = none) :
    (store.get script).2.nextNumber = store.nextNumber + 1 := by
  rw [get, hfind]
  dsimp only
  split
  · rfl
  · unfold insert
    split <;> rfl

@[simp] theorem capacity_get (store : ScriptStore) (script : String) :
    (store.get script).2.capacity = store.capacity := by
  unfold get
  split
  · rfl
  · dsimp only
    split
    · rfl
    · unfold insert
      split <;> rfl

theorem not_mem_of_not_found (hfind : store.find? script = none) :
    store.digest script ∉ store.readings := by
  rw [Std.HashMap.mem_iff_isSome_getElem?]
  simpa [find?] using hfind

/-- A reading comes in last, and the oldest leave to make room for it. -/
theorem Holds.insert (h : store.Holds entries) (hfind : store.find? script = none)
    (hcapacity : store.capacity ≠ 0) (reading : Reading) :
    (store.insert (store.digest script) reading).Holds
      ((entries ++ [(script, reading)]).rtake store.capacity) := by
  obtain ⟨room, hroom⟩ := Nat.exists_eq_succ_of_ne_zero hcapacity
  have hfresh := not_mem_of_not_found hfind
  have hkept : (evict store.capacity store.readings store.order).2 =
      (entries.rtake room).map fun entry => store.digest entry.1 := by
    rw [order_evict, h.order_eq, hroom]
    simp [List.rtake]
  rw [hroom, Nat.succ_eq_add_one, List.rtake_concat_succ]
  unfold ScriptStore.insert
  rw [if_neg hfresh]
  refine ⟨(h.inStep.evict store.capacity).insert (not_mem_evict hfresh) reading,
    by simp [hkept], ?_⟩
  intro other stored hentry
  unfold find?
  simp only [Std.HashMap.getElem?_insert, beq_iff_eq]
  rcases List.mem_append.mp hentry with hold | hnew
  · -- Those that stay are found as before.
    have hbefore := h.find?_eq other stored (List.mem_of_mem_drop hold)
    have hne : store.digest script ≠ store.digest other := by
      intro heq
      rw [find?, ← heq, ← find?, hfind] at hbefore
      cases hbefore
    have hstays : store.digest other ∈ (evict store.capacity store.readings store.order).2 := by
      rw [hkept]
      exact List.mem_map_of_mem hold
    rw [if_neg hne, h.inStep.getElem?_evict hstays]
    exact hbefore
  · rw [List.mem_singleton] at hnew
    cases hnew
    rw [if_pos rfl]

/-- So does a script that is not found, unless the store holds nothing at all. -/
theorem Holds.get_of_not_found (h : store.Holds entries) (hlength : entries.length ≤ store.capacity)
    (hfind : store.find? script = none) :
    (store.get script).2.Holds
      ((entries ++ [(script, (store.get script).1)]).rtake store.capacity) := by
  rw [reading_get_of_not_found hfind, get, hfind]
  -- Counting the reading does not change what the store holds.
  have hcounted : { store with nextNumber := store.nextNumber + 1 }.Holds entries :=
    ⟨h.inStep, h.order_eq, h.find?_eq⟩
  dsimp only
  split
  · next hzero =>
    have hnil : entries = [] := List.eq_nil_of_length_eq_zero (by omega)
    have hnone :
        (entries ++ [(script, parse script store.nextNumber)]).rtake store.capacity = [] := by
      rw [hzero, List.rtake_zero]
    rw [hnone]
    rwa [hnil] at hcounted
  · next hcapacity => exact hcounted.insert hfind hcapacity _

theorem number_of_parse {number : Nat} {parsed : ParsedScript}
    (h : parse script number = .ok parsed) : parsed.number = number := by
  obtain ⟨program, -, hreturn⟩ := bind_eq_ok_iff.mp h
  cases hreturn
  rfl

end ScriptStore

/-! ## Uses of a store -/

/-- What is done with a store. -/
inductive StoreUse where
  | get (script : String)
  | clear

/-- The scripts that a store is asked for. -/
def StoreUse.scripts : List StoreUse → List String
  | [] => []
  | .get script :: uses => script :: scripts uses
  | .clear :: uses => scripts uses

/-- A store, and what happened to it. -/
structure StoreRun where
  store : ScriptStore
  /-- The scripts that were not found since the store was last cleared, as they were then read. -/
  missed : List (String × Reading) := []
  /-- All that was ever handed out. -/
  handedOut : List Reading := []

namespace StoreRun

def step (run : StoreRun) : StoreUse → StoreRun
  | .get script =>
    let (reading, store) := run.store.get script
    { store
      missed :=
        if (run.store.find? script).isSome then run.missed else run.missed ++ [(script, reading)]
      handedOut := run.handedOut ++ [reading] }
  | .clear => { run with store := run.store.clear, missed := [] }

/-- What happens to a new store that is used in these ways. -/
def of (capacity : Nat) (digest : String → String) (uses : List StoreUse) : StoreRun :=
  uses.foldl step { store := .empty capacity digest }

/-- The last ones that were missed, as many as the store may hold. -/
def resident (run : StoreRun) : List (String × Reading) :=
  run.missed.rtake run.store.capacity

/--
What holds of a run at any time: the store holds what was missed last, and no reading that was
handed out has a number to come.
-/
structure Sound (digest : String → String) (capacity : Nat) (asked : String → Prop)
    (run : StoreRun) : Prop where
  digest_eq : run.store.digest = digest
  capacity_eq : run.store.capacity = capacity
  holds : run.store.Holds run.resident
  asked : ∀ entry ∈ run.missed, asked entry.1
  handedOut : ∀ entry ∈ run.missed, entry.2 ∈ run.handedOut
  number_lt : ∀ parsed, .ok parsed ∈ run.handedOut → parsed.number < run.store.nextNumber

section Steps

variable {digest : String → String} {capacity : Nat} {asked : String → Prop} {run : StoreRun}
  {script : String}

theorem resident_of_missed_eq_nil (h : run.missed = []) : run.resident = [] := by
  simp [resident, h, List.rtake]

theorem sound_empty (digest : String → String) (capacity : Nat) (asked : String → Prop) :
    Sound digest capacity asked { store := .empty capacity digest } where
  digest_eq := rfl
  capacity_eq := rfl
  holds := by
    rw [resident_of_missed_eq_nil rfl]
    exact ScriptStore.holds_of_order_eq_nil rfl rfl
  asked := nofun
  handedOut := nofun
  number_lt := nofun

theorem Sound.clear (h : Sound digest capacity asked run) :
    Sound digest capacity asked (run.step .clear) where
  digest_eq := h.digest_eq
  capacity_eq := h.capacity_eq
  holds := by
    rw [resident_of_missed_eq_nil rfl]
    exact ScriptStore.holds_of_order_eq_nil rfl rfl
  asked := nofun
  handedOut := nofun
  number_lt := h.number_lt

theorem mem_missed_of_resident {entry : String × Reading} (h : entry ∈ run.resident) :
    entry ∈ run.missed :=
  List.mem_of_mem_drop h

theorem Sound.find?_iff (h : Sound digest capacity asked run)
    (hdigest : Distinguishes digest asked) (hscript : asked script) {reading : Reading} :
    run.store.find? script = some reading ↔ (script, reading) ∈ run.resident :=
  h.holds.find?_iff (by rwa [h.digest_eq])
    (fun entry hentry => h.asked entry (mem_missed_of_resident hentry)) hscript

/-- A script that is found leaves everything as it was. -/
theorem Sound.hit (h : Sound digest capacity asked run) (hdigest : Distinguishes digest asked)
    (hscript : asked script) {reading : Reading}
    (hfind : run.store.find? script = some reading) :
    Sound digest capacity asked (run.step (.get script)) := by
  have hold : reading ∈ run.handedOut :=
    h.handedOut _ (mem_missed_of_resident ((h.find?_iff hdigest hscript).mp hfind))
  have hstep : run.step (.get script) = { run with handedOut := run.handedOut ++ [reading] } := by
    simp [step, hfind, ScriptStore.get_of_found hfind]
  rw [hstep]
  refine ⟨h.digest_eq, h.capacity_eq, h.holds, h.asked, ?_, ?_⟩
  · intro entry hentry
    exact List.mem_append_left _ (h.handedOut entry hentry)
  · intro parsed hparsed
    refine h.number_lt parsed ?_
    rcases List.mem_append.mp hparsed with hparsed | hparsed
    · exact hparsed
    · rwa [List.mem_singleton.mp hparsed]

/-- A script that is not found comes in, unless the store holds nothing at all. -/
theorem Sound.miss (h : Sound digest capacity asked run) (hscript : asked script)
    (hfind : run.store.find? script = none) :
    Sound digest capacity asked (run.step (.get script)) := by
  have hstep : run.step (.get script) =
      { store := (run.store.get script).2
        missed := run.missed ++ [(script, (run.store.get script).1)]
        handedOut := run.handedOut ++ [(run.store.get script).1] } := by
    simp [step, hfind]
  rw [hstep]
  refine ⟨(ScriptStore.digest_get _ _).trans h.digest_eq,
    (ScriptStore.capacity_get _ _).trans h.capacity_eq, ?_, ?_, ?_, ?_⟩
  · have hholds := h.holds.get_of_not_found (length_rtake_le _ _) hfind
    rw [resident, rtake_rtake_concat] at hholds
    rwa [resident, ScriptStore.capacity_get]
  · exact List.forall_mem_append.mpr ⟨h.asked, List.forall_mem_singleton.mpr hscript⟩
  · refine List.forall_mem_append.mpr ⟨fun entry hentry => ?_, List.forall_mem_singleton.mpr ?_⟩
    · exact List.mem_append_left _ (h.handedOut entry hentry)
    · exact List.mem_append_right _ List.mem_cons_self
  · intro parsed hparsed
    rw [ScriptStore.nextNumber_get_of_not_found hfind]
    rcases List.mem_append.mp hparsed with hold | hnew
    · exact Nat.lt_succ_of_lt (h.number_lt parsed hold)
    · rw [List.mem_singleton, ScriptStore.reading_get_of_not_found hfind] at hnew
      rw [ScriptStore.number_of_parse hnew.symm]
      exact Nat.lt_succ_self _

theorem Sound.get (h : Sound digest capacity asked run) (hdigest : Distinguishes digest asked)
    (hscript : asked script) : Sound digest capacity asked (run.step (.get script)) := by
  cases hfind : run.store.find? script with
  | some reading => exact h.hit hdigest hscript hfind
  | none => exact h.miss hscript hfind

theorem Sound.uses (h : Sound digest capacity asked run) (hdigest : Distinguishes digest asked)
    {uses : List StoreUse} (huses : ∀ script ∈ StoreUse.scripts uses, asked script) :
    Sound digest capacity asked (uses.foldl step run) := by
  induction uses generalizing run with
  | nil => exact h
  | cons use uses ih =>
    cases use with
    | get script =>
      simp only [StoreUse.scripts, List.forall_mem_cons] at huses
      exact ih (h.get hdigest huses.1) huses.2
    | clear => exact ih h.clear huses

/-- What is handed out was handed out before if and only if the script is found. -/
theorem Sound.mem_handedOut_iff (h : Sound digest capacity asked run)
    (hdigest : Distinguishes digest asked) (hscript : asked script) {parsed : ParsedScript}
    (hget : (run.store.get script).1 = .ok parsed) :
    .ok parsed ∈ run.handedOut ↔ ∃ reading, run.store.find? script = some reading := by
  cases hfind : run.store.find? script with
  | some reading =>
    rw [ScriptStore.get_of_found hfind] at hget
    have hresident := (h.find?_iff hdigest hscript).mp hfind
    refine ⟨fun _ => ⟨reading, rfl⟩, fun _ => ?_⟩
    rw [← hget]
    exact h.handedOut _ (mem_missed_of_resident hresident)
  | none =>
    rw [ScriptStore.reading_get_of_not_found hfind] at hget
    refine ⟨fun hold => ?_, fun hfound => nomatch hfound⟩
    have hlt := h.number_lt parsed hold
    rw [ScriptStore.number_of_parse hget] at hlt
    exact absurd hlt (Nat.lt_irrefl _)

end Steps

/--
A store holds the scripts that were last not found since it was cleared, in the order in which they
came and no more than it may, as long as no two scripts have the same digest. One that it holds is
handed out as it was read then and stays where it is; any other one is read anew.
-/
theorem store_is_first_in_first_out (capacity : Nat) (digest : String → String)
    (uses : List StoreUse) (hdigest : Distinguishes digest (· ∈ StoreUse.scripts uses)) :
    let run := of capacity digest uses
    let resident := run.missed.rtake capacity
    (run.store.order.Nodup ∧ ∀ key, key ∈ run.store.order ↔ key ∈ run.store.readings) ∧
    run.store.size ≤ capacity ∧
    run.store.order = resident.map (fun entry => digest entry.1) ∧
    ∀ script, Distinguishes digest (· ∈ script :: StoreUse.scripts uses) →
      (∀ reading, (script, reading) ∈ resident → run.store.get script = (reading, run.store)) ∧
      (script ∉ resident.map Prod.fst →
        (run.store.get script).1 = ScriptStore.parse script run.store.nextNumber) ∧
      ∀ parsed, (run.store.get script).1 = .ok parsed →
        (.ok parsed ∈ run.handedOut ↔ script ∈ resident.map Prod.fst) := by
  intro run resident
  have hempty (asked : String → Prop) := sound_empty digest capacity asked
  have hsound : Sound digest capacity (· ∈ StoreUse.scripts uses) run :=
    (hempty _).uses hdigest fun _ hscript => hscript
  have hresident : run.resident = resident := by
    rw [StoreRun.resident, hsound.capacity_eq]
  have hholds := hsound.holds
  rw [hresident] at hholds
  have horder := hholds.order_eq
  rw [hsound.digest_eq] at horder
  refine ⟨⟨hholds.inStep.nodup, hholds.inStep.mem_iff⟩, ?_, horder, fun script hdigest => ?_⟩
  · rw [ScriptStore.size, hholds.inStep.size_eq, horder, List.length_map]
    exact length_rtake_le _ _
  · -- From here on the store may also be asked for one more script.
    have hsound : Sound digest capacity (· ∈ script :: StoreUse.scripts uses) run :=
      (hempty _).uses hdigest fun _ hscript => List.mem_cons_of_mem _ hscript
    have hfind (reading : Reading) : run.store.find? script = some reading ↔
        (script, reading) ∈ resident := by
      rw [← hresident]
      exact hsound.find?_iff hdigest List.mem_cons_self
    refine ⟨fun reading hreading => ScriptStore.get_of_found ((hfind reading).mpr hreading),
      fun hmissing => ScriptStore.reading_get_of_not_found ?_, fun parsed hparsed => ?_⟩
    · refine Option.eq_none_iff_forall_ne_some.mpr fun reading hreading => hmissing ?_
      exact List.mem_map_of_mem ((hfind reading).mp hreading)
    · rw [hsound.mem_handedOut_iff hdigest List.mem_cons_self hparsed]
      simp [hfind]

/-- A store of one script that goes by first letters: the second script pushes out the first. -/
theorem store_is_first_in_first_out_of_eviction :
    let digest : String → String := fun text => String.ofList (text.toList.take 1)
    let uses : List StoreUse := [.get "skip", .get "if", .get "if"]
    let run := of 1 digest uses
    Distinguishes digest (· ∈ "skip" :: StoreUse.scripts uses) ∧
      run.store.size ≤ 1 ∧ run.store.order = ["i"] ∧
      run.store.get "if" = (ScriptStore.parse "if" 1, run.store) ∧
      (run.store.get "skip").1 = ScriptStore.parse "skip" 2 := by
  intro digest uses run
  have hdigest (texts : List String) (htexts : ∀ text ∈ texts, text = "skip" ∨ text = "if") :
      Distinguishes digest (· ∈ texts) := by
    intro script other hscript hother hsame
    rcases htexts script hscript with rfl | rfl <;> rcases htexts other hother with rfl | rfl
    · rfl
    · exact absurd hsame (by decide +kernel)
    · exact absurd hsame (by decide +kernel)
    · rfl
  obtain ⟨hmissed, hnumber⟩ : run.missed =
      [("skip", ScriptStore.parse "skip" 0), ("if", ScriptStore.parse "if" 1)] ∧
        run.store.nextNumber = 2 := by
    simp [run, uses, of, step, ScriptStore.get, ScriptStore.find?, ScriptStore.insert,
      ScriptStore.evict, ScriptStore.empty, digest]
  have hresident : run.missed.rtake 1 = [("if", ScriptStore.parse "if" 1)] := by
    rw [hmissed]
    rfl
  obtain ⟨-, hsize, horder, hget⟩ :=
    store_is_first_in_first_out 1 digest uses (hdigest _ (by decide +kernel))
  rw [hresident] at horder hget
  have hskip := hget "skip" (hdigest _ (by decide +kernel))
  have hif := hget "if" (hdigest _ (by decide +kernel))
  refine ⟨hdigest _ (by decide +kernel), hsize, horder.trans (by decide +kernel),
    hif.1 _ List.mem_cons_self, ?_⟩
  rw [hskip.2.1 (by decide +kernel), hnumber]

end StoreRun

end MediaNaming
