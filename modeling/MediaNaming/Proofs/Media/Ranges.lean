import Mathlib.Data.List.Forall2
import MediaNaming.Proofs.Media.Runs
import MediaNaming.Proofs.Text.Splitting

/-!
# Episode ranges read back

How a reader takes the ranges of a file's episodes apart, and that the numbers of the episodes are
found in them again.
-/

namespace MediaNaming

/-! ## How ranges are read -/

/-- The kinds that ranges can tell apart, in their order, with the letter before their numbers. -/
def letteredKinds : List (EpisodeKind × List Char) :=
  [(.episode, []), (.special, ['S']), (.credits, ['C']), (.trailer, ['T']), (.parody, ['P']),
    (.other, ['O'])]

/-- The characters denote a number of 64 bits, negative behind a minus sign. -/
def ReadsNumber (cs : List Char) (n : Int) : Prop :=
  Text.readInt? cs = some n ∧ ∃ m : Int64, m.toInt = n

/-- An item is one number of a kind, or the first and the last of several with a dash between. -/
inductive ReadsRange : List Char → EpisodeKind × NumberRun → Prop
  | number {kind : EpisodeKind} {letters cs : List Char} {n : Int} :
      (kind, letters) ∈ letteredKinds → ReadsNumber cs n →
      ReadsRange (letters ++ cs) (kind, ⟨n, n⟩)
  | range {kind : EpisodeKind} {letters cs ds : List Char} {m n : Int} :
      (kind, letters) ∈ letteredKinds → ReadsNumber cs m → ReadsNumber ds n →
      ReadsRange (letters ++ (cs ++ '-' :: ds)) (kind, ⟨m, n⟩)

/-- The items of a text, a blank between two of them; an empty text has none. -/
def rangeItems (text : String) : List (List Char) :=
  if text = "" then [] else text.toList.splitOn ' '

/-- What the ranges say, number by number. -/
def rangeNumbers (ranges : List (EpisodeKind × NumberRun)) : List (EpisodeKind × Int) :=
  ranges.flatMap fun range => range.2.numbers.map fun n => (range.1, n)

/-- The ranges give each number of the anime's episodes once, and no two of them could be one. -/
structure Summarizes (episodes : List Episode) (animeId : Int64)
    (ranges : List (EpisodeKind × NumberRun)) : Prop where
  numbers : ∃ numbers : EpisodeKind → List Int,
    (∀ kind, (numbers kind).Pairwise (· < ·)) ∧
    (∀ kind n, n ∈ numbers kind ↔
      ∃ episode ∈ episodes, episode.animeId = animeId ∧ episode.kind = kind ∧
        episode.number.toInt = n) ∧
    rangeNumbers ranges =
      (letteredKinds.map Prod.fst).flatMap fun kind => (numbers kind).map fun n => (kind, n)
  ordered : ∀ range ∈ ranges, range.2.first ≤ range.2.last
  maximal : ranges.Pairwise fun earlier later =>
    earlier.1 = later.1 → earlier.2.last + 2 ≤ later.2.first

/-! ## The shape of items -/

/-- The characters that a number can start with. -/
def startsNumber (c : Char) : Bool :=
  c == '-' || c.isDigit

section Shapes

variable {cs ds item : List Char} {m n : Int} {kind : EpisodeKind} {letters : List Char}
  {run : NumberRun}

/-- Only the first character of a number can be a dash. -/
theorem ReadsNumber.shape (h : ReadsNumber cs n) :
    ∃ c digits, cs = c :: digits ∧ startsNumber c = true ∧ ∀ d ∈ digits, d.isDigit = true := by
  obtain ⟨digits, hne, hall, rfl | rfl⟩ := Text.sign_digits_of_readInt? h.1
  · exact ⟨'-', digits, rfl, rfl, hall⟩
  · obtain ⟨c, digits, rfl⟩ := List.exists_cons_of_ne_nil hne
    obtain ⟨hc, hdigits⟩ := List.forall_mem_cons.mp hall
    exact ⟨c, digits, rfl, by simp [startsNumber, hc], hdigits⟩

/-- Number and range alike: letters, a number and the end or a dash before a second number. -/
theorem ReadsRange.parts (h : ReadsRange item (kind, run)) :
    ∃ letters cs rest, item = letters ++ (cs ++ rest) ∧ (kind, letters) ∈ letteredKinds ∧
      ReadsNumber cs run.first ∧
      (rest = [] ∧ run.last = run.first ∨ ∃ ds, rest = '-' :: ds ∧ ReadsNumber ds run.last) := by
  cases h with
  | @number _ letters cs n hkind hn =>
    exact ⟨letters, cs, [], by simp, hkind, hn, .inl ⟨rfl, rfl⟩⟩
  | @range _ letters cs ds m n hkind hm hn =>
    exact ⟨letters, cs, '-' :: ds, rfl, hkind, hm, .inr ⟨ds, rfl, hn⟩⟩

theorem startsNumber_of_mem_letters (h : (kind, letters) ∈ letteredKinds) :
    ∀ c ∈ letters, startsNumber c = false := by
  have hall : letteredKinds.all (fun entry => entry.2.all fun c => !startsNumber c) = true := rfl
  simpa using List.all_eq_true.mp (List.all_eq_true.mp hall _ h)

/-! ## Items are read in one way -/

/-- The letters of an item end where its first number starts. -/
theorem letters_inj {kind' : EpisodeKind} {letters' rest rest' : List Char}
    (h : (kind, letters) ∈ letteredKinds) (h' : (kind', letters') ∈ letteredKinds)
    (hm : ReadsNumber cs m) (hn : ReadsNumber ds n)
    (heq : letters ++ (cs ++ rest) = letters' ++ (ds ++ rest')) :
    kind = kind' ∧ cs ++ rest = ds ++ rest' := by
  have hstarts : ∀ {cs rest : List Char} {n : Int}, ReadsNumber cs n →
      ∀ c ∈ (cs ++ rest).head?, (!startsNumber c) = false := by
    intro cs rest n hread c hc
    obtain ⟨first, digits, rfl, hfirst, -⟩ := hread.shape
    cases hc
    simp [hfirst]
  have hletters : ∀ {kind letters}, (kind, letters) ∈ letteredKinds →
      ∀ c ∈ letters, (!startsNumber c) = true := by
    intro kind letters hmem c hc
    simp [startsNumber_of_mem_letters hmem c hc]
  obtain ⟨rfl, hrest⟩ := Text.append_inj_of_all (hletters h) (hletters h') (hstarts hm)
    (hstarts hn) heq
  have hkinds : ∀ entry ∈ letteredKinds, ∀ other ∈ letteredKinds,
      entry.2 = other.2 → entry.1 = other.1 := by decide
  exact ⟨hkinds _ h _ h' rfl, hrest⟩

/-- The first number of an item ends at its end or before the dash. -/
theorem first_inj {rest rest' : List Char} (hm : ReadsNumber cs m) (hn : ReadsNumber ds n)
    (hrest : ∀ c ∈ rest.head?, c = '-') (hrest' : ∀ c ∈ rest'.head?, c = '-')
    (heq : cs ++ rest = ds ++ rest') : m = n ∧ rest = rest' := by
  obtain ⟨c, digits, rfl, -, hdigits⟩ := hm.shape
  obtain ⟨d, digits', rfl, -, hdigits'⟩ := hn.shape
  obtain ⟨rfl, htail⟩ := List.cons.inj heq
  have hdash : Char.isDigit '-' = false := by decide
  obtain ⟨rfl, hmore⟩ := Text.append_inj_of_all hdigits hdigits'
    (fun c hc => hrest c hc ▸ hdash) (fun c hc => hrest' c hc ▸ hdash) htail
  exact ⟨Option.some.inj (hm.1.symm.trans hn.1), hmore⟩

theorem readsRange_rightUnique : Relator.RightUnique ReadsRange := by
  rintro item ⟨kind, run⟩ ⟨kind', run'⟩ h h'
  obtain ⟨letters, cs, rest, hitem, hkind, hfirst, hrest⟩ := h.parts
  obtain ⟨letters', cs', rest', hitem', hkind', hfirst', hrest'⟩ := h'.parts
  -- From left to right both derivations part the item at the same places.
  obtain ⟨rfl, heq⟩ := letters_inj hkind hkind' hfirst hfirst' (hitem.symm.trans hitem')
  have hdash : ∀ c ∈ rest.head?, c = '-' := by
    rcases hrest with ⟨rfl, -⟩ | ⟨ds, rfl, -⟩ <;> simp
  have hdash' : ∀ c ∈ rest'.head?, c = '-' := by
    rcases hrest' with ⟨rfl, -⟩ | ⟨ds, rfl, -⟩ <;> simp
  obtain ⟨hfirsts, rfl⟩ := first_inj hfirst hfirst' hdash hdash' heq
  have hlasts : run.last = run'.last := by
    rcases hrest with ⟨rfl, hlast⟩ | ⟨ds, rfl, hlast⟩ <;>
      rcases hrest' with ⟨hnil, hlast'⟩ | ⟨ds', hcons, hlast'⟩
    · rw [hlast, hlast', hfirsts]
    · cases hcons
    · cases hnil
    · cases hcons
      exact Option.some.inj (hlast.1.symm.trans hlast'.1)
  obtain ⟨first, last⟩ := run
  obtain ⟨first', last'⟩ := run'
  cases hfirsts
  cases hlasts
  rfl

/-! ## Items are cut apart -/

theorem ReadsNumber.blank_not_mem (h : ReadsNumber cs n) : ' ' ∉ cs := by
  obtain ⟨c, digits, rfl, hc, hdigits⟩ := h.shape
  intro hmem
  rcases List.mem_cons.mp hmem with rfl | hmem
  · exact absurd hc (by decide)
  · exact absurd (hdigits _ hmem) (by decide)

theorem ReadsRange.blank_not_mem (h : ReadsRange item (kind, run)) : ' ' ∉ item := by
  obtain ⟨letters, cs, rest, rfl, hkind, hfirst, hrest⟩ := h.parts
  have hletters : ' ' ∉ letters :=
    have hall : ∀ entry ∈ letteredKinds, ' ' ∉ entry.2 := by decide
    hall _ hkind
  have hrest : ' ' ∉ rest := by
    rcases hrest with ⟨rfl, -⟩ | ⟨ds, rfl, hlast⟩
    · exact List.not_mem_nil
    · simpa using hlast.blank_not_mem
  simp [hletters, hfirst.blank_not_mem, hrest]

theorem ReadsRange.ne_nil (h : ReadsRange item (kind, run)) : item ≠ [] := by
  obtain ⟨letters, cs, rest, rfl, -, hfirst, -⟩ := h.parts
  obtain ⟨c, digits, rfl, -⟩ := hfirst.shape
  simp

end Shapes

theorem rangeItems_of_intercalate {text : String} {items : List (List Char)}
    (htext : text.toList = [' '].intercalate items) (hne : ∀ item ∈ items, item ≠ [])
    (hblank : ∀ item ∈ items, ' ' ∉ item) : rangeItems text = items := by
  unfold rangeItems
  cases items with
  | nil => rw [if_pos (String.toList_injective (by simpa using htext))]
  | cons item items =>
    have hfilled : text ≠ "" := by
      rintro rfl
      have hitem := hne item List.mem_cons_self
      cases items <;> simp_all [List.intercalate]
    rw [if_neg hfilled, htext]
    exact List.splitOn_intercalate ' ' hblank (List.cons_ne_nil _ _)

/-! ## Ranges of episodes -/

/-- The ranges that are written for the episodes of an anime. -/
def writtenRanges (episodes : List Episode) (animeId : Int64) : List (EpisodeKind × NumberRun) :=
  EpisodeKind.all.flatMap fun kind =>
    (runs (ascending (episodeNumbers episodes animeId kind))).map fun run => (kind, run)

section Writing

variable {episodes : List Episode} {animeId : Int64} {kind : EpisodeKind} {n : Int}

theorem toList_episodeRanges (width : Nat) :
    (episodeRanges episodes animeId width).toList =
      [' '].intercalate ((writtenRanges episodes animeId).map fun range =>
        range.2.toChars range.1.letter width) := by
  have hblank : " ".toList = [' '] := by decide
  simp only [episodeRanges, writtenRanges, String.toList_intercalate, hblank, List.map_flatMap,
    List.map_map, Function.comp_def, String.toList_ofList]

/-- A written range is one of a kind that occurs, between numbers of 64 bits. -/
theorem ends_of_mem_writtenRanges {range : EpisodeKind × NumberRun}
    (h : range ∈ writtenRanges episodes animeId) :
    (∃ episode ∈ episodes, episode.animeId = animeId ∧ episode.kind = range.1) ∧
      (∃ m : Int64, m.toInt = range.2.first) ∧ (∃ m : Int64, m.toInt = range.2.last) ∧
      range.2.first ≤ range.2.last := by
  obtain ⟨kind, -, hrange⟩ := List.mem_flatMap.mp h
  obtain ⟨run, hrun, rfl⟩ := List.mem_map.mp hrange
  obtain ⟨hfirst, hlast, hle⟩ := ends_of_mem_runs (pairwise_ascending _) hrun
  obtain ⟨first, hmem, hanime, hkind, hnumber⟩ := mem_episodeNumbers.mp (mem_ascending.mp hfirst)
  obtain ⟨last, -, -, -, hnumber'⟩ := mem_episodeNumbers.mp (mem_ascending.mp hlast)
  exact ⟨⟨first, hmem, hanime, hkind⟩, ⟨_, hnumber⟩, ⟨_, hnumber'⟩, hle⟩

/-! ### What is written is read -/

theorem letter_mem_letteredKinds (h : kind ≠ .unknown) :
    (kind, kind.letter.toList) ∈ letteredKinds := by
  cases kind
  case unknown => exact absurd rfl h
  all_goals decide

theorem readsNumber_paddedInt (width : Nat) (h : ∃ m : Int64, m.toInt = n) :
    ReadsNumber (Text.paddedInt width n) n :=
  ⟨Text.readInt?_paddedInt width n, h⟩

theorem readsRange_toChars {run : NumberRun} (width : Nat) (hkind : kind ≠ .unknown)
    (hfirst : ∃ m : Int64, m.toInt = run.first) (hlast : ∃ m : Int64, m.toInt = run.last) :
    ReadsRange (run.toChars kind.letter width) (kind, run) := by
  obtain ⟨first, last⟩ := run
  have hletters := letter_mem_letteredKinds hkind
  unfold NumberRun.toChars
  split
  · next heq =>
    cases heq
    rw [List.append_nil]
    exact .number hletters (readsNumber_paddedInt width hfirst)
  · rw [List.append_assoc]
    exact .range hletters (readsNumber_paddedInt width hfirst) (readsNumber_paddedInt width hlast)

/-! ### What is read are the numbers of the episodes -/

theorem rangeNumbers_writtenRanges :
    rangeNumbers (writtenRanges episodes animeId) = EpisodeKind.all.flatMap fun kind =>
      (ascending (episodeNumbers episodes animeId kind)).map fun n => (kind, n) := by
  have hkind : ∀ kind : EpisodeKind, ∀ ns : List Int,
      ((runs ns).flatMap fun run => run.numbers.map fun n => (kind, n)) =
        ns.map fun n => (kind, n) := by
    intro kind ns
    rw [← List.map_flatMap, numbers_runs]
  simp only [rangeNumbers, writtenRanges, List.flatMap_assoc, List.flatMap_map, hkind]

/-- No two ranges of one kind could be one. -/
theorem pairwise_writtenRanges :
    (writtenRanges episodes animeId).Pairwise fun earlier later =>
      earlier.1 = later.1 → earlier.2.last + 2 ≤ later.2.first := by
  refine List.pairwise_flatMap.mpr ⟨?_, ?_⟩
  · intro kind _
    refine List.pairwise_map.mpr ((pairwise_runs (pairwise_ascending _)).imp ?_)
    intro earlier later hgap _
    exact hgap
  · have hdistinct : EpisodeKind.all.Pairwise (· ≠ ·) := by decide
    refine hdistinct.imp ?_
    intro kind kind' hne earlier hearlier later hlater heq
    obtain ⟨run, -, rfl⟩ := List.mem_map.mp hearlier
    obtain ⟨run', -, rfl⟩ := List.mem_map.mp hlater
    exact absurd heq hne

theorem summarizes_writtenRanges
    (hknown : ∀ episode ∈ episodes, episode.animeId = animeId → episode.kind ≠ .unknown) :
    Summarizes episodes animeId (writtenRanges episodes animeId) where
  numbers := by
    refine ⟨fun kind => ascending (episodeNumbers episodes animeId kind),
      fun kind => pairwise_ascending _, fun kind n => mem_ascending.trans mem_episodeNumbers, ?_⟩
    have hall : EpisodeKind.all = letteredKinds.map Prod.fst ++ [.unknown] := rfl
    have hunknown : episodeNumbers episodes animeId .unknown = [] := by
      refine List.eq_nil_iff_forall_not_mem.mpr fun n hn => ?_
      obtain ⟨episode, hmem, hanime, hkind, -⟩ := mem_episodeNumbers.mp hn
      exact hknown episode hmem hanime hkind
    rw [rangeNumbers_writtenRanges, hall, List.flatMap_append]
    simp [hunknown, ascending]
  ordered := fun _ hrange => (ends_of_mem_writtenRanges hrange).2.2.2
  maximal := pairwise_writtenRanges

end Writing

/--
The ranges of an anime's episodes are read in exactly one way, and what is read are the numbers of
the episodes, kind by kind. Episodes of no known kind would be read as regular ones.
-/
theorem episodeRanges_reads_back (episodes : List Episode) (animeId : Int64) (width : Nat)
    (hknown : ∀ episode ∈ episodes, episode.animeId = animeId → episode.kind ≠ .unknown) :
    ∃ ranges,
      List.Forall₂ ReadsRange (rangeItems (episodeRanges episodes animeId width)) ranges ∧
      (∀ others,
        List.Forall₂ ReadsRange (rangeItems (episodeRanges episodes animeId width)) others →
          others = ranges) ∧
      Summarizes episodes animeId ranges := by
  have hread : ∀ range ∈ writtenRanges episodes animeId,
      ReadsRange (range.2.toChars range.1.letter width) range := by
    intro range hrange
    obtain ⟨⟨episode, hmem, hanime, hkind⟩, hfirst, hlast, -⟩ := ends_of_mem_writtenRanges hrange
    exact readsRange_toChars width (hkind ▸ hknown episode hmem hanime) hfirst hlast
  have hitems : rangeItems (episodeRanges episodes animeId width) =
      (writtenRanges episodes animeId).map fun range => range.2.toChars range.1.letter width :=
    rangeItems_of_intercalate (toList_episodeRanges width)
      (List.forall_mem_map.mpr fun range hrange => (hread range hrange).ne_nil)
      (List.forall_mem_map.mpr fun range hrange => (hread range hrange).blank_not_mem)
  have hranges : List.Forall₂ ReadsRange (rangeItems (episodeRanges episodes animeId width))
      (writtenRanges episodes animeId) := by
    rw [hitems, List.forall₂_map_left_iff]
    exact List.forall₂_same.mpr hread
  refine ⟨writtenRanges episodes animeId, hranges, ?_, summarizes_writtenRanges hknown⟩
  intro others hothers
  exact readsRange_rightUnique.forall₂ hothers hranges

/-- Episodes of several kinds, among them the ends of the 64 bits, and one of another anime. -/
def mixedEpisodes : List Episode :=
  [⟨1, 1, Int64.maxValue, .special, none, []⟩, ⟨2, 1, 3, .episode, none, []⟩,
    ⟨3, 1, Int64.minValue, .special, none, []⟩, ⟨4, 1, -1, .episode, none, []⟩,
    ⟨5, 1, -2, .episode, none, []⟩, ⟨6, 2, 4, .unknown, none, []⟩,
    ⟨7, 1, 3, .episode, none, []⟩, ⟨8, 1, Int64.maxValue - 1, .special, none, []⟩]

theorem episodeRanges_reads_back_of_mixedEpisodes :
    episodeRanges mixedEpisodes 1 3 =
      "-02--01 003 S-9223372036854775808 S9223372036854775806-9223372036854775807" ∧
    ∃ ranges,
      List.Forall₂ ReadsRange (rangeItems (episodeRanges mixedEpisodes 1 3)) ranges ∧
      (∀ others,
        List.Forall₂ ReadsRange (rangeItems (episodeRanges mixedEpisodes 1 3)) others →
          others = ranges) ∧
      Summarizes mixedEpisodes 1 ranges :=
  ⟨by decide +kernel, episodeRanges_reads_back mixedEpisodes 1 3 (by decide)⟩

end MediaNaming
