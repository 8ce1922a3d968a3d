import MediaNaming.Proofs.Media.Owned

/-!
# The blocks of episode ranges

The ranges of an anime's episodes are blocks, one for each kind that occurs, in the order of the
kinds. A block shows the numbers of its kind and nothing else, so an episode more changes no block
but that of its own kind.
-/

namespace MediaNaming

/-! ## The order of kinds -/

namespace EpisodeKind

/-- The earlier kind has a place, and the later one a greater place or none. -/
def Precedes (earlier later : EpisodeKind) : Prop :=
  ∃ m, earlier.ordinal? = some m ∧ ∀ n, later.ordinal? = some n → m < n

theorem mem_all (kind : EpisodeKind) : kind ∈ all := by
  cases kind <;> decide

theorem pairwise_all : all.Pairwise Precedes := by
  simp [all, Precedes, ordinal?]

end EpisodeKind

/-! ## Groups of items -/

/-- Items are joined group by group; a group without items leaves no trace. -/
theorem intercalate_flatMap {α : Type} (separator : String) (items : α → List String)
    (groups : List α) :
    separator.intercalate (groups.flatMap items) =
      separator.intercalate ((groups.filter fun group => !(items group).isEmpty).map fun group =>
        separator.intercalate (items group)) := by
  induction groups with
  | nil => rfl
  | cons group groups ih =>
    rw [List.flatMap_cons]
    cases hitems : items group with
    | nil => rw [List.nil_append, ih, List.filter_cons_of_neg (by simp [hitems])]
    | cons item more =>
      rw [List.filter_cons_of_pos (by simp [hitems]), List.map_cons, ← hitems]
      have hne : items group ≠ [] := by simp [hitems]
      -- Whether a separator follows depends on whether any later group has an item.
      by_cases hrest : groups.flatMap items = []
      · have hnone : groups.filter (fun group => !(items group).isEmpty) = [] := by
          simpa [List.flatMap_eq_nil_iff] using hrest
        rw [hrest, hnone, List.append_nil, List.map_nil, String.intercalate_singleton]
      · have hsome : (groups.filter fun group => !(items group).isEmpty).map
            (fun group => separator.intercalate (items group)) ≠ [] := by
          simpa [List.flatMap_eq_nil_iff] using hrest
        rw [String.intercalate_append_of_ne_nil hne hrest,
          String.intercalate_cons_of_ne_nil hsome, ih]

theorem intercalate_eq_empty_iff {separator : String} {items : List String}
    (h : ∀ item ∈ items, item ≠ "") : separator.intercalate items = "" ↔ items = [] := by
  constructor
  · intro hempty
    cases items with
    | nil => rfl
    | cons item items =>
      refine absurd ?_ (h item List.mem_cons_self)
      cases items with
      | nil => simpa using hempty
      | cons next items =>
        rw [String.intercalate_cons_cons, String.append_eq_empty_iff,
          String.append_eq_empty_iff] at hempty
        exact hempty.1.1
  · rintro rfl
    exact String.intercalate_nil

/-! ## Blocks -/

/-- What is written for the episodes of one kind alone. -/
def kindBlock (episodes : List Episode) (animeId : Int64) (width : Nat) (kind : EpisodeKind) :
    String :=
  episodeRanges (episodes.filter fun episode => episode.kind == kind) animeId width

/-- The blocks that hold something, with a blank between two of them. -/
def joinBlocks (blocks : List String) : String :=
  " ".intercalate (blocks.filter (· ≠ ""))

/-- The numbers are in the text as their longest runs, in ascending order and each behind the
kind's letter. -/
def ShowsRuns (kind : EpisodeKind) (width : Nat) (isNumber : Int → Prop) (text : String) : Prop :=
  ∃ runs : List NumberRun, (∀ run ∈ runs, run.first ≤ run.last) ∧
    runs.Pairwise NumberRun.GapBefore ∧
    (∀ n, isNumber n ↔ ∃ run ∈ runs, run.first ≤ n ∧ n ≤ run.last) ∧
    text = " ".intercalate (runs.map fun run => String.ofList (run.toChars kind.letter width))

/-- The items that are written for a kind. -/
def kindItems (episodes : List Episode) (animeId : Int64) (width : Nat) (kind : EpisodeKind) :
    List String :=
  (runs (ascending (episodeNumbers episodes animeId kind))).map fun run =>
    String.ofList (run.toChars kind.letter width)

section Blocks

variable {episodes before after : List Episode} {episode : Episode} {animeId : Int64}
  {kind kind' : EpisodeKind}

/-! ### Numbers of other kinds -/

theorem episodeNumbers_filter_self :
    episodeNumbers (episodes.filter fun episode => episode.kind == kind) animeId kind =
      episodeNumbers episodes animeId kind := by
  simp only [episodeNumbers, List.filter_filter, Bool.and_assoc, Bool.and_self]

theorem episodeNumbers_filter_of_ne (h : kind' ≠ kind) :
    episodeNumbers (episodes.filter fun episode => episode.kind == kind) animeId kind' = [] := by
  refine List.eq_nil_iff_forall_not_mem.mpr fun n hn => ?_
  obtain ⟨episode, hmem, -, hkind', -⟩ := mem_episodeNumbers.mp hn
  have hkind : episode.kind = kind := by simpa using List.of_mem_filter hmem
  exact h (hkind'.symm.trans hkind)

theorem episodeNumbers_insert_of_ne (h : kind ≠ episode.kind) :
    episodeNumbers (before ++ episode :: after) animeId kind =
      episodeNumbers (before ++ after) animeId kind := by
  have hkind : (episode.kind == kind) = false := by simpa using h.symm
  simp [episodeNumbers, hkind]

theorem kindItems_eq_nil_iff {width : Nat} :
    kindItems episodes animeId width kind = [] ↔
      ¬ ∃ number, (kind, number) ∈ ownedNumbers episodes animeId := by
  have hruns : runs (ascending (episodeNumbers episodes animeId kind)) = [] ↔
      ascending (episodeNumbers episodes animeId kind) = [] := by
    constructor
    · intro hnil
      rw [← numbers_runs (ascending _), hnil, List.flatMap_nil]
    · intro hnil
      rw [hnil, runs]
  rw [kindItems, List.map_eq_nil_iff, hruns, List.eq_nil_iff_forall_not_mem]
  simp only [mem_ascending, mem_episodeNumbers_iff_owned]
  grind

/-! ### What a block shows -/

variable (episodes animeId) (width : Nat) (kind)

theorem kindBlock_eq :
    kindBlock episodes animeId width kind =
      " ".intercalate (kindItems episodes animeId width kind) := by
  have hitems : ∀ kind' ∈ EpisodeKind.all,
      kindItems (episodes.filter fun episode => episode.kind == kind) animeId width kind' =
        if kind' = kind then kindItems episodes animeId width kind else [] := by
    intro kind' _
    split
    · next heq => rw [heq, kindItems, episodeNumbers_filter_self, kindItems]
    · next hne => rw [kindItems, episodeNumbers_filter_of_ne hne]; rfl
  show " ".intercalate (EpisodeKind.all.flatMap (kindItems _ animeId width)) = _
  rw [List.flatMap_congr hitems]
  cases kind <;> simp [EpisodeKind.all]

theorem showsRuns_kindBlock :
    ShowsRuns kind width
      (fun n => ∃ number, (kind, number) ∈ ownedNumbers episodes animeId ∧ number.toInt = n)
      (kindBlock episodes animeId width kind) := by
  have hascending := pairwise_ascending (episodeNumbers episodes animeId kind)
  refine ⟨runs (ascending (episodeNumbers episodes animeId kind)), fun run hrun => ?_,
    pairwise_runs hascending, fun n => ?_, kindBlock_eq _ _ _ _⟩
  · exact (ends_of_mem_runs hascending hrun).2.2
  · refine mem_episodeNumbers_iff_owned.symm.trans (mem_ascending.symm.trans ?_)
    conv_lhs => rw [← numbers_runs (ascending _)]
    simp only [List.mem_flatMap, NumberRun.numbers, Int.mem_range_iff, Int.lt_add_one_iff]

theorem ne_empty_of_mem_kindItems {item : String}
    (h : item ∈ kindItems episodes animeId width kind) : item ≠ "" := by
  obtain ⟨run, -, rfl⟩ := List.mem_map.mp h
  have hdigits := Text.natChars_ne_nil run.first.natAbs
  rw [Ne, String.ofList_eq_empty_iff]
  simp [NumberRun.toChars, Text.paddedInt, hdigits]

theorem kindBlock_eq_empty_iff :
    kindBlock episodes animeId width kind = "" ↔
      ¬ ∃ number, (kind, number) ∈ ownedNumbers episodes animeId := by
  rw [kindBlock_eq, ← kindItems_eq_nil_iff]
  exact intercalate_eq_empty_iff fun _ => ne_empty_of_mem_kindItems _ _ _ _

/-- The text is made of the blocks of all kinds in their order. -/
theorem episodeRanges_eq_joinBlocks :
    episodeRanges episodes animeId width =
      joinBlocks (EpisodeKind.all.map (kindBlock episodes animeId width)) := by
  have hempty : ∀ kind ∈ EpisodeKind.all,
      (!(kindItems episodes animeId width kind).isEmpty) =
        decide (kindBlock episodes animeId width kind ≠ "") := by
    intro kind _
    have hitems : kindItems episodes animeId width kind = [] ↔ _ := kindItems_eq_nil_iff
    rw [Bool.eq_iff_iff]
    simp [kindBlock_eq_empty_iff, ← hitems]
  show " ".intercalate (EpisodeKind.all.flatMap (kindItems episodes animeId width)) = _
  rw [intercalate_flatMap, List.filter_congr hempty, joinBlocks, List.filter_map]
  simp only [← kindBlock_eq, Function.comp_def]

end Blocks

/-- One episode more, wherever it is listed, changes the block of its kind and no other one. -/
theorem kindBlock_insert_of_ne {before after : List Episode} {episode : Episode}
    {kind : EpisodeKind} (h : kind ≠ episode.kind) (animeId : Int64) (width : Nat) :
    kindBlock (before ++ episode :: after) animeId width kind =
      kindBlock (before ++ after) animeId width kind := by
  rw [kindBlock_eq, kindBlock_eq, kindItems, kindItems, episodeNumbers_insert_of_ne h]

/--
The ranges depend on the kinds and numbers of the anime's episodes alone. They are made of one block
for each kind, in the order of the kinds' places with the unknown kind last; each block shows the
numbers of its kind; and with one episode more there is another block for its kind between the same
blocks as before.
-/
theorem episodeRanges_in_blocks (episodes : List Episode) (animeId : Int64) (width : Nat) :
    (∀ others, ownedNumbers others animeId = ownedNumbers episodes animeId →
      episodeRanges others animeId width = episodeRanges episodes animeId width) ∧
    (EpisodeKind.all.Pairwise EpisodeKind.Precedes ∧ (∀ kind, kind ∈ EpisodeKind.all) ∧
      episodeRanges episodes animeId width =
        joinBlocks (EpisodeKind.all.map (kindBlock episodes animeId width))) ∧
    (∀ kind, ShowsRuns kind width
      (fun n => ∃ number, (kind, number) ∈ ownedNumbers episodes animeId ∧ number.toInt = n)
      (kindBlock episodes animeId width kind)) ∧
    ∀ before after episode, before ++ after = episodes →
      ∃ earlier later, EpisodeKind.all = earlier ++ episode.kind :: later ∧
        episodeRanges episodes animeId width =
          joinBlocks (earlier.map (kindBlock episodes animeId width) ++
            kindBlock episodes animeId width episode.kind ::
              later.map (kindBlock episodes animeId width)) ∧
        episodeRanges (before ++ episode :: after) animeId width =
          joinBlocks (earlier.map (kindBlock episodes animeId width) ++
            kindBlock (before ++ episode :: after) animeId width episode.kind ::
              later.map (kindBlock episodes animeId width)) := by
  refine ⟨fun others howned => episodeRanges_congr howned width,
    ⟨EpisodeKind.pairwise_all, EpisodeKind.mem_all, episodeRanges_eq_joinBlocks _ _ _⟩,
    fun kind => showsRuns_kindBlock _ _ _ _, ?_⟩
  rintro before after episode rfl
  obtain ⟨earlier, later, hall⟩ := List.append_of_mem (EpisodeKind.mem_all episode.kind)
  refine ⟨earlier, later, hall, ?_, ?_⟩
  · rw [episodeRanges_eq_joinBlocks, hall, List.map_append, List.map_cons]
  · -- A kind is listed once, so the kinds around it are other ones.
    have hnodup : (earlier ++ episode.kind :: later).Nodup := hall ▸ by decide
    obtain ⟨-, hlater, happart⟩ := List.nodup_append.mp hnodup
    have hearlier : ∀ kind ∈ earlier, kind ≠ episode.kind := fun kind hkind =>
      happart kind hkind _ List.mem_cons_self
    have hbehind : ∀ kind ∈ later, kind ≠ episode.kind := fun kind hkind heq =>
      (List.nodup_cons.mp hlater).1 (heq ▸ hkind)
    rw [episodeRanges_eq_joinBlocks, hall, List.map_append, List.map_cons,
      List.map_congr_left fun kind hkind => kindBlock_insert_of_ne (hearlier kind hkind) _ _,
      List.map_congr_left fun kind hkind => kindBlock_insert_of_ne (hbehind kind hkind) _ _]

/--
The same episodes in another order, one of them twice and with one of another anime; a third special
between those that are there goes into their block, while regular episodes and those of no known
kind stay apart.
-/
theorem episodeRanges_in_blocks_of_specials :
    let episode (id animeId number : Int64) (kind : EpisodeKind) : Episode :=
      { id, animeId, number, kind }
    let before := [episode 1 1 3 .unknown, episode 2 1 2 .credits, episode 3 1 1 .special]
    let after := [episode 4 1 3 .special, episode 5 1 7 .episode]
    let others := [episode 9 1 7 .episode, episode 5 2 8 .episode, episode 4 1 3 .special,
      episode 8 1 1 .special, episode 7 1 2 .credits, episode 6 1 3 .unknown,
      episode 3 1 1 .special]
    let second := episode 10 1 2 .special
    ownedNumbers others 1 = ownedNumbers (before ++ after) 1 ∧
      episodeRanges (before ++ after) 1 2 = "07 S01 S03 C02 03" ∧
      episodeRanges others 1 2 = episodeRanges (before ++ after) 1 2 ∧
      kindBlock (before ++ second :: after) 1 2 .special = "S01-03" ∧
      ∃ earlier later, EpisodeKind.all = earlier ++ .special :: later ∧
        episodeRanges (before ++ second :: after) 1 2 =
          joinBlocks (earlier.map (kindBlock (before ++ after) 1 2) ++
            kindBlock (before ++ second :: after) 1 2 .special ::
              later.map (kindBlock (before ++ after) 1 2)) := by
  intro episode before after others second
  have howned : ownedNumbers others 1 = ownedNumbers (before ++ after) 1 := by decide +kernel
  obtain ⟨hsame, -, -, hinsert⟩ := episodeRanges_in_blocks (before ++ after) 1 2
  obtain ⟨earlier, later, hall, -, hnew⟩ := hinsert before after second rfl
  exact ⟨howned, by decide +kernel, hsame others howned, by decide +kernel, earlier, later, hall,
    hnew⟩

end MediaNaming
