import Mathlib.Data.Finset.Dedup
import Mathlib.Data.List.Sort
import MediaNaming.Proofs.Media.Runs

/-!
# The episodes of an anime as a set

Of the episodes of an anime, its ranges show the kinds and the numbers and nothing else: not their
order, not how often they are listed, not what they are called.
-/

namespace MediaNaming

/-- Lists with the same members are the same once they ascend. -/
theorem ascending_congr {ns ms : List Int} (h : ∀ k, k ∈ ns ↔ k ∈ ms) :
    ascending ns = ascending ms := by
  refine (pairwise_ascending ns).eq_of_mem_iff (pairwise_ascending ms) fun k => ?_
  rw [mem_ascending, mem_ascending, h k]

/-- The kinds and numbers of the episodes that belong to the anime. -/
def ownedNumbers (episodes : List Episode) (animeId : Int64) : Finset (EpisodeKind × Int64) :=
  ((episodes.filter fun episode => episode.animeId == animeId).map
    fun episode => (episode.kind, episode.number)).toFinset

section Owned

variable {episodes : List Episode} {animeId : Int64} {kind : EpisodeKind}

theorem mem_ownedNumbers {number : Int64} :
    (kind, number) ∈ ownedNumbers episodes animeId ↔
      ∃ episode ∈ episodes,
        episode.animeId = animeId ∧ episode.kind = kind ∧ episode.number = number := by
  simp [ownedNumbers, and_assoc]

theorem mem_episodeNumbers_iff_owned {k : Int} :
    k ∈ episodeNumbers episodes animeId kind ↔
      ∃ number, (kind, number) ∈ ownedNumbers episodes animeId ∧ number.toInt = k := by
  simp only [mem_episodeNumbers, mem_ownedNumbers]
  constructor
  · rintro ⟨episode, hmem, howner, hkind, hnumber⟩
    exact ⟨episode.number, ⟨episode, hmem, howner, hkind, rfl⟩, hnumber⟩
  · rintro ⟨_, ⟨episode, hmem, howner, hkind, rfl⟩, hnumber⟩
    exact ⟨episode, hmem, howner, hkind, hnumber⟩

end Owned

/-- The ranges of two lists are the same text if the lists own the same numbers of each kind. -/
theorem episodeRanges_congr {episodes others : List Episode} {animeId otherId : Int64}
    (h : ownedNumbers episodes animeId = ownedNumbers others otherId) (width : Nat) :
    episodeRanges episodes animeId width = episodeRanges others otherId width := by
  have hnumbers : ∀ kind, ascending (episodeNumbers episodes animeId kind) =
      ascending (episodeNumbers others otherId kind) := fun kind =>
    ascending_congr fun k => by rw [mem_episodeNumbers_iff_owned, mem_episodeNumbers_iff_owned, h]
  simp only [episodeRanges, hnumbers]

end MediaNaming
