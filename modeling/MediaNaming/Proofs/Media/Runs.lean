import Mathlib.Data.Int.Range
import MediaNaming.Media.EpisodeRanges

/-!
# Runs of numbers

The numbers of the runs of a list are the list again, and no two runs of an ascending list could be
one.
-/

namespace MediaNaming

/-! ## Ascending numbers -/

section Ascending

variable {n : Int} {ms : List Int}

theorem pairwise_insertAscending (h : ms.Pairwise (· < ·)) :
    (insertAscending n ms).Pairwise (· < ·) := by
  induction ms with
  | nil => simp [insertAscending]
  | cons m ms ih =>
    obtain ⟨hleast, hms⟩ := List.pairwise_cons.mp h
    rw [insertAscending]
    split
    · next hlt =>
      refine List.pairwise_cons.mpr ⟨?_, h⟩
      intro k hk
      rcases List.mem_cons.mp hk with rfl | hk
      · exact hlt
      · exact lt_trans hlt (hleast k hk)
    · split
      · exact h
      · refine List.pairwise_cons.mpr ⟨?_, ih hms⟩
        intro k hk
        rcases mem_insertAscending.mp hk with rfl | hk
        · omega
        · exact hleast k hk

theorem pairwise_ascending (ns : List Int) : (ascending ns).Pairwise (· < ·) := by
  induction ns with
  | nil => exact List.Pairwise.nil
  | cons n ns ih => exact pairwise_insertAscending ih

end Ascending

/-! ## The numbers of runs -/

/-- The numbers of a run in ascending order. -/
def NumberRun.numbers (run : NumberRun) : List Int :=
  Int.range run.first (run.last + 1)

theorem intRange_succ {first n : Int} (h : first ≤ n) :
    Int.range first (n + 1) = Int.range first n ++ [n] := by
  have hcount : (n + 1 - first).toNat = (n - first).toNat + 1 := by omega
  have hlast : first + ((n - first).toNat : Int) = n := by omega
  simp only [Int.range, hcount, List.range_succ, List.map_append, List.map_singleton, hlast]

theorem intRange_singleton (n : Int) : Int.range n (n + 1) = [n] := by
  simp [Int.range]

section Runs

variable {first last : Int} {ns : List Int} {run : NumberRun}

/-- This needs no order: where the list falls, a run ends as it does at a gap. -/
theorem numbers_runsFrom (hle : first ≤ last) :
    (runsFrom first last ns).flatMap NumberRun.numbers = Int.range first (last + 1) ++ ns := by
  induction ns generalizing first last with
  | nil => simp [runsFrom, NumberRun.numbers]
  | cons n ns ih =>
    rw [runsFrom]
    split
    · next hnext =>
      have hgrown : Int.range first (n + 1) = Int.range first (last + 1) ++ [n] := by
        rw [intRange_succ (by omega), hnext]
      rw [ih (by omega), hgrown, List.append_assoc, List.singleton_append]
    · rw [List.flatMap_cons, ih le_rfl, intRange_singleton, List.singleton_append,
        NumberRun.numbers]

theorem numbers_runs (ns : List Int) : (runs ns).flatMap NumberRun.numbers = ns := by
  cases ns with
  | nil => rfl
  | cons n ns =>
    rw [runs, numbers_runsFrom le_rfl, intRange_singleton, List.singleton_append]

/-! ## The ends of runs -/

/-- A run ends at numbers of the list, the first not above the last. -/
theorem ends_of_mem_runsFrom (hle : first ≤ last) (hns : (last :: ns).Pairwise (· < ·))
    (hrun : run ∈ runsFrom first last ns) :
    run.first ∈ first :: ns ∧ run.last ∈ last :: ns ∧ run.first ≤ run.last := by
  induction ns generalizing first last with
  | nil =>
    rw [runsFrom, List.mem_singleton] at hrun
    simpa [hrun] using hle
  | cons n ns ih =>
    obtain ⟨hbelow, hrest⟩ := List.pairwise_cons.mp hns
    have hn : last < n := hbelow n List.mem_cons_self
    rw [runsFrom] at hrun
    split at hrun
    · -- The run goes on, so its first number is the old one and its last one is in the list.
      obtain ⟨hfirst, hlast, hends⟩ := ih (by omega) hrest hrun
      refine ⟨?_, List.mem_cons_of_mem _ hlast, hends⟩
      rcases List.mem_cons.mp hfirst with heq | hmem
      · exact List.mem_cons.mpr (.inl heq)
      · exact List.mem_cons_of_mem _ (List.mem_cons_of_mem _ hmem)
    · rcases List.mem_cons.mp hrun with rfl | hrun
      · exact ⟨List.mem_cons_self, List.mem_cons_self, hle⟩
      · obtain ⟨hfirst, hlast, hends⟩ := ih le_rfl hrest hrun
        exact ⟨List.mem_cons_of_mem _ hfirst, List.mem_cons_of_mem _ hlast, hends⟩

theorem ends_of_mem_runs (hns : ns.Pairwise (· < ·)) (hrun : run ∈ runs ns) :
    run.first ∈ ns ∧ run.last ∈ ns ∧ run.first ≤ run.last := by
  cases ns with
  | nil => cases hrun
  | cons n ns => exact ends_of_mem_runsFrom le_rfl hns hrun

/-! ## The gaps between runs -/

/-- A number at least lies between the first run and the second. -/
def NumberRun.GapBefore (earlier later : NumberRun) : Prop :=
  earlier.last + 2 ≤ later.first

theorem pairwise_runsFrom (hle : first ≤ last) (hns : (last :: ns).Pairwise (· < ·)) :
    (runsFrom first last ns).Pairwise NumberRun.GapBefore := by
  induction ns generalizing first last with
  | nil => exact List.pairwise_singleton _ _
  | cons n ns ih =>
    obtain ⟨hbelow, hrest⟩ := List.pairwise_cons.mp hns
    have hn : last < n := hbelow n List.mem_cons_self
    rw [runsFrom]
    split
    · exact ih (by omega) hrest
    · next hgap =>
      refine List.pairwise_cons.mpr ⟨?_, ih le_rfl hrest⟩
      intro run hrun
      -- All later runs start at numbers of the list, which are not below the one behind the gap.
      have hleast : n ≤ run.first := by
        rcases List.mem_cons.mp (ends_of_mem_runsFrom le_rfl hrest hrun).1 with heq | hmem
        · exact heq.ge
        · exact ((List.pairwise_cons.mp hrest).1 _ hmem).le
      show last + 2 ≤ run.first
      omega

theorem pairwise_runs (hns : ns.Pairwise (· < ·)) : (runs ns).Pairwise NumberRun.GapBefore := by
  cases ns with
  | nil => exact List.Pairwise.nil
  | cons n ns => exact pairwise_runsFrom le_rfl hns

end Runs

end MediaNaming
