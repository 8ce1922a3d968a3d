import Mathlib.Data.ENat.Basic
import Mathlib.Data.Fin.VecNotation
import Mathlib.Data.List.Basic
import MediaNaming.Script.Metadata

/-!
# Choosing titles

The kinds that are preferred rank the titles of a language. Titles are looked for kind by kind, and
once more if there is none of these kinds; what is found is the first of the titles that rank least.
So the order in which titles are listed counts among titles of the same rank alone.
-/

namespace MediaNaming

/-! ## Ranks -/

/-- The place of the kind among those that are preferred, behind all of them if it is none. -/
def TitleKind.rank (kinds : List TitleKind) (kind : TitleKind) : ℕ∞ :=
  if kind ∈ kinds then kinds.idxOf kind else ⊤

namespace TitleKind

variable {kinds front back : List TitleKind} {kind other : TitleKind}

theorem rank_of_not_mem (h : kind ∉ kinds) : rank kinds kind = ⊤ :=
  if_neg h

/-- Where a kind is repeated, its first place counts. -/
theorem rank_append_cons (h : kind ∉ front) :
    rank (front ++ kind :: back) kind = front.length := by
  rw [rank, if_pos (List.mem_append_right _ List.mem_cons_self), List.idxOf_append_of_notMem h,
    List.idxOf_cons_self, Nat.add_zero]

theorem length_le_rank (h : other ∉ front) : (front.length : ℕ∞) ≤ rank (front ++ back) other := by
  unfold rank
  split
  · rw [List.idxOf_append_of_notMem h]
    exact Nat.cast_le.mpr (Nat.le_add_right _ _)
  · exact le_top

end TitleKind

namespace Title

def rank (kinds : List TitleKind) (title : Title) : ℕ∞ :=
  title.kind.rank kinds

/-! ## The best title -/

/-- The title at a place is the first of those titles of the language that rank least. -/
structure IsBest (titles : List Title) (language : Language) (kinds : List TitleKind) (place : Nat)
    (title : Title) : Prop where
  getElem? : titles[place]? = some title
  language_eq : title.language = language
  rank_le : ∀ (i : Nat) (other : Title), titles[i]? = some other → other.language = language →
    title.rank kinds ≤ other.rank kinds
  rank_lt : ∀ (i : Nat) (other : Title), i < place → titles[i]? = some other →
    other.language = language → title.rank kinds < other.rank kinds

section Choice

variable {titles : List Title} {language : Language} {kinds : List TitleKind} {title : Title}

/-- No other place holds the best title. -/
theorem IsBest.place_unique {i j : Nat} {other : Title} (hi : IsBest titles language kinds i title)
    (hj : IsBest titles language kinds j other) : i = j := by
  rcases Nat.lt_trichotomy i j with hlt | heq | hlt
  · have hless := hj.rank_lt i title hlt hi.getElem? hi.language_eq
    exact absurd (hi.rank_le j other hj.getElem? hj.language_eq) (not_le_of_gt hless)
  · exact heq
  · have hless := hi.rank_lt j other hlt hj.getElem? hj.language_eq
    exact absurd (hj.rank_le i title hi.getElem? hi.language_eq) (not_le_of_gt hless)

theorem IsBest.unique {i j : Nat} {other : Title} (hi : IsBest titles language kinds i title)
    (hj : IsBest titles language kinds j other) : title = other := by
  have hplace := hi.place_unique hj
  exact Option.some.inj (hi.getElem?.symm.trans (hplace ▸ hj.getElem?))

/-- Titles of a preferred kind come first, then those of any kind. -/
theorem pick?_eq_or (titles : List Title) (language : Language) (kinds : List TitleKind) :
    pick? titles language kinds =
      (kinds.findSome? fun kind =>
        titles.find? fun title => title.language == language && title.kind == kind).or
      (titles.find? fun title => title.language == language) := by
  unfold pick?
  dsimp only
  cases kinds.findSome? _ <;> rfl

theorem pick?_eq_none_iff :
    pick? titles language kinds = none ↔ ∀ title ∈ titles, title.language ≠ language := by
  rw [pick?_eq_or, Option.or_eq_none_iff, List.find?_eq_none, List.findSome?_eq_none_iff]
  constructor
  · rintro ⟨-, hnone⟩ title htitle
    simpa using hnone title htitle
  · intro h
    refine ⟨fun kind _ => List.find?_eq_none.mpr fun title htitle => ?_, fun title htitle => ?_⟩
    · simp [h title htitle]
    · simpa using h title htitle

/-- The first title of the first preferred kind that there is ranks least. -/
theorem exists_isBest_of_preferred
    (h : (kinds.findSome? fun kind => titles.find? fun title =>
      title.language == language && title.kind == kind) = some title) :
    ∃ place, IsBest titles language kinds place title := by
  obtain ⟨front, kind, back, rfl, hfind, hnone⟩ := List.findSome?_eq_some_iff.mp h
  obtain ⟨hmatch, place, hplace, rfl, hbefore⟩ := List.find?_eq_some_iff_getElem.mp hfind
  obtain ⟨hlanguage, hkind⟩ := by simpa using hmatch
  -- The search has gone through the kinds in front without finding a title.
  have hfront : ∀ other ∈ titles, other.language = language → other.kind ∉ front := by
    intro other hother hlanguage hkind
    have hmissed := List.find?_eq_none.mp (hnone _ hkind) other hother
    simp [hlanguage] at hmissed
  have hrank : titles[place].rank (front ++ kind :: back) = front.length := by
    rw [rank, hkind]
    exact TitleKind.rank_append_cons (hkind ▸ hfront _ (List.getElem_mem hplace) hlanguage)
  refine ⟨place, List.getElem?_eq_getElem hplace, hlanguage, ?_, ?_⟩
  · intro i other hother hlanguage
    rw [hrank]
    exact TitleKind.length_le_rank (hfront other (List.mem_of_getElem? hother) hlanguage)
  · intro i other hi hother hlanguage
    obtain ⟨hlt, rfl⟩ := List.getElem?_eq_some_iff.mp hother
    have hkind : titles[i].kind ≠ kind := by simpa [hlanguage] using hbefore i hi
    -- In front of the title that was found there is none of its kind either.
    have hother : titles[i].kind ∉ front ++ [kind] := by
      simpa [hkind] using hfront titles[i] (List.getElem_mem hlt) hlanguage
    have hle := @TitleKind.length_le_rank (front ++ [kind]) back _ hother
    rw [List.append_assoc, List.length_append] at hle
    rw [hrank]
    exact lt_of_lt_of_le (Nat.cast_lt.mpr (Nat.lt_succ_self _)) hle

/-- If no title of the language is of a preferred kind, they all rank alike. -/
theorem exists_isBest_of_any
    (hnone : (kinds.findSome? fun kind => titles.find? fun title =>
      title.language == language && title.kind == kind) = none)
    (h : (titles.find? fun title => title.language == language) = some title) :
    ∃ place, IsBest titles language kinds place title := by
  obtain ⟨hmatch, place, hplace, rfl, hbefore⟩ := List.find?_eq_some_iff_getElem.mp h
  have hlanguage : titles[place].language = language := by simpa using hmatch
  -- A title of a preferred kind would have been found first.
  have hrank : ∀ other ∈ titles, other.language = language → other.rank kinds = ⊤ := by
    intro other hother hlanguage
    refine TitleKind.rank_of_not_mem fun hkind => ?_
    have hmissed := List.findSome?_eq_none_iff.mp hnone _ hkind
    have hmissed := List.find?_eq_none.mp hmissed other hother
    simp [hlanguage] at hmissed
  refine ⟨place, List.getElem?_eq_getElem hplace, hlanguage, ?_, ?_⟩
  · intro i other hother hlanguage
    rw [hrank other (List.mem_of_getElem? hother) hlanguage]
    exact le_top
  · intro i other hi hother hlanguage
    obtain ⟨hlt, rfl⟩ := List.getElem?_eq_some_iff.mp hother
    exact absurd hlanguage (by simpa using hbefore i hi)

/-- What is found is the best title, whether it is of a preferred kind or not. -/
theorem exists_isBest_of_pick? (h : pick? titles language kinds = some title) :
    ∃ place, IsBest titles language kinds place title := by
  rw [pick?_eq_or, Option.or_eq_some_iff] at h
  rcases h with hpreferred | ⟨hnone, hany⟩
  · exact exists_isBest_of_preferred hpreferred
  · exact exists_isBest_of_any hnone hany

theorem pick?_eq_some_iff :
    pick? titles language kinds = some title ↔
      ∃ place, IsBest titles language kinds place title := by
  refine ⟨exists_isBest_of_pick?, fun ⟨place, hbest⟩ => ?_⟩
  cases hpick : pick? titles language kinds with
  | none =>
    have hmem := List.mem_of_getElem? hbest.getElem?
    exact absurd hbest.language_eq (pick?_eq_none_iff.mp hpick title hmem)
  | some found =>
    obtain ⟨other, hother⟩ := exists_isBest_of_pick? hpick
    rw [hbest.unique hother]

end Choice

/-! ## Titles in another order -/

/--
The titles are listed in another order, in which titles of the language that rank alike still follow
on each other as they did.
-/
def Reordered (language : Language) (kinds : List TitleKind) (titles others : List Title) : Prop :=
  ∃ place : Fin titles.length ≃ Fin others.length,
    (∀ i, others[place i] = titles[i]) ∧
    ∀ i j, i < j → titles[i].language = language → titles[j].language = language →
      titles[i].rank kinds = titles[j].rank kinds → place i < place j

section Reordered

variable {titles others : List Title} {language : Language} {kinds : List TitleKind} {title : Title}

theorem Reordered.nil : Reordered language kinds [] [] :=
  ⟨Equiv.refl _, fun i => i.elim0, fun i => i.elim0⟩

theorem Reordered.mem_iff (h : Reordered language kinds titles others) :
    title ∈ others ↔ title ∈ titles := by
  obtain ⟨place, htitles, -⟩ := h
  rw [List.mem_iff_get, List.mem_iff_get]
  constructor
  · rintro ⟨i, rfl⟩
    exact ⟨place.symm i, by simpa using (htitles (place.symm i)).symm⟩
  · rintro ⟨i, rfl⟩
    exact ⟨place i, htitles i⟩

/-- The best title is the best one in the other order too. -/
theorem IsBest.of_reordered {i : Nat} (hbest : IsBest titles language kinds i title)
    (h : Reordered language kinds titles others) :
    ∃ j, IsBest others language kinds j title := by
  obtain ⟨hi, rfl⟩ := List.getElem?_eq_some_iff.mp hbest.getElem?
  have hmem : ∀ j other, others[j]? = some other → other ∈ titles := fun j other hother =>
    h.mem_iff.mp (List.mem_of_getElem? hother)
  obtain ⟨place, htitles, hkept⟩ := h
  have hle : ∀ other ∈ titles, other.language = language →
      titles[i].rank kinds ≤ other.rank kinds := by
    intro other hother hlanguage
    obtain ⟨k, hk⟩ := List.mem_iff_getElem?.mp hother
    exact hbest.rank_le k other hk hlanguage
  refine ⟨place ⟨i, hi⟩, ?_, hbest.language_eq, fun j other hother hlanguage => ?_, ?_⟩
  · rw [List.getElem?_eq_getElem (place ⟨i, hi⟩).isLt]
    exact congrArg some (htitles ⟨i, hi⟩)
  · exact hle other (hmem j other hother) hlanguage
  · intro j other hj hother hlanguage
    refine lt_of_le_of_ne (hle other (hmem j other hother) hlanguage) fun hrank => ?_
    -- A title of the same rank stood behind the best one, so it still does.
    obtain ⟨hlt, rfl⟩ := List.getElem?_eq_some_iff.mp hother
    obtain ⟨k, hk⟩ := place.surjective ⟨j, hlt⟩
    have htitle : others[j] = titles[k] :=
      (congrArg (fun p : Fin others.length => others[p]) hk).symm.trans (htitles k)
    rw [htitle] at hlanguage hrank
    rcases Nat.lt_trichotomy k i with hki | hki | hik
    · have hless := hbest.rank_lt k titles[k] hki (List.getElem?_eq_getElem k.isLt) hlanguage
      exact absurd hrank hless.ne
    · obtain rfl : k = ⟨i, hi⟩ := Fin.ext hki
      rw [hk] at hj
      exact absurd hj (Nat.lt_irrefl _)
    · have hbehind : place ⟨i, hi⟩ < place k :=
        hkept ⟨i, hi⟩ k hik hbest.language_eq hlanguage hrank
      rw [hk] at hbehind
      exact absurd hj (Nat.lt_asymm hbehind)

theorem Reordered.pick?_eq (h : Reordered language kinds titles others) :
    pick? others language kinds = pick? titles language kinds := by
  cases hpick : pick? titles language kinds with
  | none =>
    rw [pick?_eq_none_iff] at hpick ⊢
    exact fun title htitle => hpick title (h.mem_iff.mp htitle)
  | some title =>
    obtain ⟨place, hbest⟩ := pick?_eq_some_iff.mp hpick
    exact pick?_eq_some_iff.mpr (hbest.of_reordered h)

theorem Reordered.pickText_eq (h : Reordered language kinds titles others) :
    pickText others language kinds = pickText titles language kinds := by
  rw [pickText, pickText, h.pick?_eq]

end Reordered

end Title

/-! ## Labels that show a title -/

/-- The titles that are chosen from, and which ones are preferred. -/
structure TitleChoice where
  titles : Request → List Title
  language : Language
  kinds : List TitleKind

namespace TitleChoice

/-- A choice from the titles of the anime. -/
def ofAnime (language : Language) (kinds : List TitleKind) : TitleChoice :=
  { titles := fun request => Request.listOf request.primaryAnime? Anime.titles, language, kinds }

/-- A choice from the titles of the episode. -/
def ofEpisode (language : Language) : TitleChoice :=
  { titles := fun request => Request.listOf request.primaryEpisode? Episode.titles, language
    kinds := [.main, .official] }

def picked (choice : TitleChoice) (request : Request) : Option Title :=
  Title.pick? (choice.titles request) choice.language choice.kinds

end TitleChoice

namespace TextLabel

/-- What title a label shows, if it shows one that is chosen. -/
def titleChoice? : TextLabel → Option TitleChoice
  | animeTitleRomaji => some (.ofAnime .romaji [.main, .official])
  | animeTitleEnglish => some (.ofAnime .english [.official, .main])
  | animeTitleJapanese => some (.ofAnime .japanese [.official, .main])
  | episodeTitleRomaji => some (.ofEpisode .romaji)
  | episodeTitleEnglish => some (.ofEpisode .english)
  | episodeTitleJapanese => some (.ofEpisode .japanese)
  | _ => none

end TextLabel

namespace Request

theorem text_of_titleChoice {label : TextLabel} {choice : TitleChoice}
    (h : label.titleChoice? = some choice) (request : Request) :
    request.text label =
      Title.pickText (choice.titles request) choice.language choice.kinds := by
  cases label <;> cases h <;> rfl

/-- The anime and the episodes are the same, but for the order in which each lists its titles. -/
structure Reorders (language : Language) (kinds : List TitleKind)
    (left right : Request) : Prop where
  anime : List.Forall₂ (fun a b => b = { a with titles := b.titles } ∧
    Title.Reordered language kinds a.titles b.titles) left.anime right.anime
  episodes : List.Forall₂ (fun a b => b = { a with titles := b.titles } ∧
    Title.Reordered language kinds a.titles b.titles) left.episodes right.episodes

namespace Reorders

variable {language : Language} {kinds : List TitleKind} {left right : Request}

theorem titles_of_head {α : Type} {titles : α → List Title} {as bs : List α} {alike : α → α → Prop}
    (halike : ∀ a b, alike a b → Title.Reordered language kinds (titles a) (titles b))
    (h : List.Forall₂ alike as bs) :
    Title.Reordered language kinds (listOf as.head? titles) (listOf bs.head? titles) := by
  cases h with
  | nil => exact .nil
  | cons hfirst hrest => exact halike _ _ hfirst

theorem textOf_of_head {α : Type} {field : α → String} {as bs : List α} {alike : α → α → Prop}
    (halike : ∀ a b, alike a b → field b = field a) (h : List.Forall₂ alike as bs) :
    textOf bs.head? field = textOf as.head? field := by
  cases h with
  | nil => rfl
  | cons hfirst hrest => exact halike _ _ hfirst

theorem titles_ofAnime (h : Reorders language kinds left right) :
    Title.Reordered language kinds ((TitleChoice.ofAnime language kinds).titles left)
      ((TitleChoice.ofAnime language kinds).titles right) :=
  titles_of_head (fun _ _ halike => halike.2) h.anime

theorem titles_ofEpisode (h : Reorders language kinds left right) :
    Title.Reordered language kinds ((TitleChoice.ofEpisode language).titles left)
      ((TitleChoice.ofEpisode language).titles right) :=
  titles_of_head (fun _ _ halike => halike.2) h.episodes

/-- A label shows the same title, in whatever order the titles are that it does not prefer. -/
theorem text_eq {label : TextLabel} {choice : TitleChoice}
    (hchoice : label.titleChoice? = some choice)
    (h : Reorders choice.language choice.kinds left right) :
    right.text label = left.text label := by
  rw [text_of_titleChoice hchoice, text_of_titleChoice hchoice]
  refine Title.Reordered.pickText_eq ?_
  cases label <;> cases hchoice
  · exact h.titles_ofAnime
  · exact h.titles_ofAnime
  · exact h.titles_ofAnime
  · exact h.titles_ofEpisode
  · exact h.titles_ofEpisode
  · exact h.titles_ofEpisode

theorem preferredTitle_eq (h : Reorders language kinds left right) :
    right.text .animeTitlePreferred = left.text .animeTitlePreferred := by
  refine textOf_of_head (fun a b halike => ?_) h.anime
  rw [halike.1]

end Reorders

end Request

/-! ## Best titles -/

/--
No title is found just when there is none of the language; else it is the first of those of the
language whose kinds rank least. The order of the titles counts among titles of the language that
rank alike alone: for what is found, and for the text of every label that shows a title.
-/
theorem Title.best_title_is_found :
    (∀ (titles : List Title) (language : Language) (kinds : List TitleKind),
      pick? titles language kinds = none ↔ ∀ title ∈ titles, title.language ≠ language) ∧
    (∀ (titles : List Title) (language : Language) (kinds : List TitleKind) (title : Title),
      pick? titles language kinds = some title ↔
        ∃ place, IsBest titles language kinds place title) ∧
    (∀ (titles others : List Title) (language : Language) (kinds : List TitleKind),
      Reordered language kinds titles others →
        pick? others language kinds = pick? titles language kinds) ∧
    (∀ (label : TextLabel) (choice : TitleChoice), label.titleChoice? = some choice →
      (∀ request : Request, request.text label = ((choice.picked request).map text).getD "") ∧
      ∀ left right : Request, left.Reorders choice.language choice.kinds right →
        right.text label = left.text label) ∧
    ∀ (language : Language) (kinds : List TitleKind) (left right : Request),
      left.Reorders language kinds right →
        right.text .animeTitlePreferred = left.text .animeTitlePreferred := by
  refine ⟨fun _ _ _ => pick?_eq_none_iff, fun _ _ _ _ => pick?_eq_some_iff,
    fun _ _ _ _ h => h.pick?_eq, fun label choice hchoice => ⟨fun request => ?_, ?_⟩,
    fun _ _ _ _ h => h.preferredTitle_eq⟩
  · rw [Request.text_of_titleChoice hchoice, pickText, TitleChoice.picked]
    cases pick? (choice.titles request) choice.language choice.kinds <;> rfl
  · exact fun _ _ h => h.text_eq hchoice

/--
A kind is preferred twice, two titles are of the kind that is preferred most, and the other English
title stands before them. The other order keeps only these two in place.
-/
theorem Title.best_title_is_found_of_synonyms :
    let synonym : Title := ⟨"S", .english, .synonym⟩
    let romaji : Title := ⟨"R", .romaji, .official⟩
    let first : Title := ⟨"A", .english, .official⟩
    let second : Title := ⟨"B", .english, .official⟩
    let titles : List Title := [synonym, romaji, first, second]
    let others : List Title := [first, synonym, second, romaji]
    let request (titles : List Title) : Request := {
      file := { id := 1, path := "" }
      anime := [{ id := 1, preferredTitle := "P", titles := titles, kind := .movie }]
      episodes := [] }
    (pick? titles .greek [.main] = none ∧ ∀ title ∈ titles, title.language ≠ .greek) ∧
    (pick? titles .english [.official, .main, .official] = some first ∧
      ∃ place, IsBest titles .english [.official, .main, .official] place first) ∧
    (Reordered .english [.official, .main] titles others ∧
      pick? others .english [.official, .main] = pick? titles .english [.official, .main]) ∧
    ((request titles).Reorders .english [.official, .main] (request others) ∧
      (request titles).text .animeTitleEnglish = "A" ∧
      (request others).text .animeTitleEnglish = (request titles).text .animeTitleEnglish) ∧
    (request others).text .animeTitlePreferred = (request titles).text .animeTitlePreferred := by
  intro synonym romaji first second titles others request
  obtain ⟨hnone, hbest, horder, hlabel, hpreferred⟩ := best_title_is_found
  let place : Fin titles.length ≃ Fin others.length :=
    { toFun := ![1, 3, 0, 2], invFun := ![2, 0, 3, 1]
      left_inv := by unfold Function.LeftInverse; decide
      right_inv := by unfold Function.RightInverse Function.LeftInverse; decide }
  have hreordered : Reordered .english [.official, .main] titles others :=
    ⟨place, by decide, by decide +kernel⟩
  have hreorders : (request titles).Reorders .english [.official, .main] (request others) :=
    ⟨.cons ⟨rfl, hreordered⟩ .nil, .nil⟩
  have hgreek : ∀ title ∈ titles, title.language ≠ .greek := by decide
  have hfound : pick? titles .english [.official, .main, .official] = some first := by decide
  have hshown := hlabel .animeTitleEnglish (.ofAnime .english [.official, .main]) rfl
  exact ⟨⟨(hnone titles .greek [.main]).mpr hgreek, hgreek⟩,
    ⟨hfound, (hbest titles .english [.official, .main, .official] first).mp hfound⟩,
    ⟨hreordered, horder titles others .english [.official, .main] hreordered⟩,
    ⟨hreorders, (hshown.1 (request titles)).trans (by decide), hshown.2 _ _ hreorders⟩,
    hpreferred _ _ _ _ hreorders⟩

end MediaNaming
