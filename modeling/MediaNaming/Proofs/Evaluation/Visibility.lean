import MediaNaming.Proofs.Evaluation.Lookups
import MediaNaming.Proofs.Media.Owned

/-!
# What a program can see

Programs see of a request the values of the labels that they name and, if they list episodes, which
episodes the first anime owns. Requests that have these in common are all the same to a program,
whatever else they differ in.
-/

namespace MediaNaming

/-- The kinds and numbers of the episodes that the first anime owns, if there is an anime. -/
def Request.ownNumbers? (request : Request) : Option (Finset (EpisodeKind × Int64)) :=
  request.primaryAnime?.map fun anime => ownedNumbers request.episodes anime.id

theorem Request.episodesText_congr {left right : Request}
    (h : left.ownNumbers? = right.ownNumbers?) (width : Nat) :
    left.episodesText width = right.episodesText width := by
  unfold Request.ownNumbers? at h
  unfold Request.episodesText
  cases hleft : left.primaryAnime? with
  | none =>
    rw [hleft] at h
    rw [Option.map_eq_none_iff.mp h.symm]
  | some anime =>
    rw [hleft] at h
    obtain ⟨other, hright, howned⟩ := Option.map_eq_some_iff.mp h.symm
    rw [hright]
    exact episodeRanges_congr howned.symm width

/--
Two requests make no difference to a program if they give the same value to each label in it and,
where it lists episodes, both lack an anime or their first anime own the same numbers of each kind:
both passes end the same, be it with buffers, skipped, cancelled with a message or in an error.
-/
theorem program_sees_only_lookups (program : Program) (left right : Request)
    (hlabels : ∀ label, Lookup.label label ∈ program.lookups → left.value label = right.value label)
    (hepisodes : Lookup.episodes ∈ program.lookups → left.ownNumbers? = right.ownNumbers?)
    (pass : Pass) : program.run pass left = program.run pass right := by
  have hagree : Request.AgreeOn program.lookups left right := by
    intro lookup hlookup
    cases lookup with
    | label label => exact hlabels label hlookup
    | episodes => exact Request.episodesText_congr (hepisodes hlookup)
  exact program_agree pass program hagree

/--
Two requests about other files of other anime, whose episodes are listed in another order, one of
them twice, between episodes of a third anime.
-/
theorem program_sees_only_lookups_of_listing :
    let program : Program := ⟨[
      .choose (.branch (.label (.flag .restricted)) [.cancel [.label (.text .animeTitlePreferred)]]
        .done),
      .add .unnamed [.episodes (.number 2), .label (.text .animeTitlePreferred)]]⟩
    let episode (animeId number : Int64) (kind : EpisodeKind) : Episode :=
      { id := number, animeId, number, kind }
    let left : Request := {
      file := { id := 1, path := "/a/b.mkv" }
      anime := [{ id := 1, preferredTitle := "A", kind := .movie }]
      episodes := [episode 1 2 .episode, episode 3 9 .episode, episode 1 1 .special,
        episode 1 2 .episode] }
    let right : Request := {
      file := { id := 5, path := "c.avi", manuallyLinked := true }
      anime := [{ id := 7, preferredTitle := "A", kind := .web }]
      episodes := [episode 7 1 .special, episode 7 2 .episode] }
    (∀ label, Lookup.label label ∈ program.lookups → left.value label = right.value label) ∧
      (Lookup.episodes ∈ program.lookups → left.ownNumbers? = right.ownNumbers?) ∧
      ∀ pass, program.run pass left = program.run pass right := by
  intro program episode left right
  have hlookups : program.lookups = [.label (.flag .restricted),
      .label (.text .animeTitlePreferred), .episodes, .label (.text .animeTitlePreferred)] := rfl
  have hlabels : ∀ label, Lookup.label label ∈ program.lookups →
      left.value label = right.value label := by
    intro label hlabel
    rw [hlookups] at hlabel
    simp only [List.mem_cons, Lookup.label.injEq, reduceCtorEq, List.not_mem_nil, or_false,
      false_or] at hlabel
    rcases hlabel with rfl | rfl | rfl <;> rfl
  have hepisodes : Lookup.episodes ∈ program.lookups → left.ownNumbers? = right.ownNumbers? :=
    fun _ => by decide +kernel
  exact ⟨hlabels, hepisodes, program_sees_only_lookups program left right hlabels hepisodes⟩

end MediaNaming
