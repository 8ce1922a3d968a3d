import MediaNaming.Media.Date
import MediaNaming.Media.Title

/-!
# Anime

The series and films that files belong to.
-/

namespace MediaNaming

/-! ## Kinds of anime -/

inductive AnimeKind where
  | movie
  | ova
  | tvSeries
  | tvSpecial
  | web
  | other
deriving DecidableEq

namespace AnimeKind

/-- The name as people read it. -/
def displayName : AnimeKind → String
  | movie => "Movie"
  | ova => "OVA"
  | tvSeries => "TV Series"
  | tvSpecial => "TV Special"
  | web => "Web"
  | other => "Other"

/-- The name as records hold it. -/
def recordName : AnimeKind → String
  | movie => "Movie"
  | ova => "Ova"
  | tvSeries => "TvSeries"
  | tvSpecial => "TvSpecial"
  | web => "Web"
  | other => "Other"

/-- The kind of that name in records; any name that is not known means `other`. -/
def ofRecordName (name : String) : AnimeKind :=
  ([movie, ova, tvSeries, tvSpecial, web].find? fun kind => kind.recordName == name).getD other

def toJson (kind : AnimeKind) : Json :=
  .text kind.recordName

def ofJson? (json : Json) : Option AnimeKind :=
  json.name?.map ofRecordName

@[simp] theorem ofRecordName_recordName (kind : AnimeKind) :
    ofRecordName kind.recordName = kind := by
  cases kind <;> decide +kernel

end AnimeKind

/-! ## Counts of episodes -/

/-- How many episodes of each kind there are. -/
structure EpisodeCounts where
  episodes : Int64 := 0
  specials : Int64 := 0
  credits : Int64 := 0
  trailers : Int64 := 0
  parodies : Int64 := 0
  others : Int64 := 0
deriving DecidableEq

namespace EpisodeCounts

def toJson (counts : EpisodeCounts) : Json :=
  .object [
    ("episodes", .ofInt64 counts.episodes),
    ("specials", .ofInt64 counts.specials),
    ("credits", .ofInt64 counts.credits),
    ("trailers", .ofInt64 counts.trailers),
    ("parodies", .ofInt64 counts.parodies),
    ("others", .ofInt64 counts.others)]

def ofJson? (json : Json) : Option EpisodeCounts := do
  let record ← json.record?
    ["episodes", "specials", "credits", "trailers", "parodies", "others"]
  let episodes ← record.fieldOr "episodes" 0 Json.int64?
  let specials ← record.fieldOr "specials" 0 Json.int64?
  let credits ← record.fieldOr "credits" 0 Json.int64?
  let trailers ← record.fieldOr "trailers" 0 Json.int64?
  let parodies ← record.fieldOr "parodies" 0 Json.int64?
  let others ← record.fieldOr "others" 0 Json.int64?
  return { episodes, specials, credits, trailers, parodies, others }

end EpisodeCounts

/-! ## Anime -/

structure Anime where
  id : Int64
  preferredTitle : String
  titles : List Title := []
  restricted : Bool := false
  kind : AnimeKind
  airDate : Option Date := none
  endDate : Option Date := none
  episodeCounts : EpisodeCounts := {}
  relatedIds : List Int64 := []
deriving DecidableEq

namespace Anime

def toJson (anime : Anime) : Json :=
  .object [
    ("id", .ofInt64 anime.id),
    ("preferred_title", .text anime.preferredTitle),
    ("titles", .ofList Title.toJson anime.titles),
    ("restricted", .bool anime.restricted),
    ("kind", anime.kind.toJson),
    ("air_date", .ofOption Date.toJson anime.airDate),
    ("end_date", .ofOption Date.toJson anime.endDate),
    ("episode_counts", anime.episodeCounts.toJson),
    ("related_ids", .ofList Json.ofInt64 anime.relatedIds)]

def ofJson? (json : Json) : Option Anime := do
  let record ← json.record?
    ["id", "preferred_title", "titles", "restricted", "kind", "air_date", "end_date",
      "episode_counts", "related_ids"]
  let id ← record.field "id" Json.int64?
  let preferredTitle ← record.field "preferred_title" Json.text?
  let titles ← record.fieldOr "titles" [] (Json.list? Title.ofJson?)
  let restricted ← record.fieldOr "restricted" false Json.bool?
  let kind ← record.field "kind" AnimeKind.ofJson?
  let airDate ← record.fieldOr "air_date" none (Json.option? Date.ofJson?)
  let endDate ← record.fieldOr "end_date" none (Json.option? Date.ofJson?)
  let episodeCounts ← record.fieldOr "episode_counts" {} EpisodeCounts.ofJson?
  let relatedIds ← record.fieldOr "related_ids" [] (Json.list? Json.int64?)
  return {
    id, preferredTitle, titles, restricted, kind, airDate, endDate, episodeCounts, relatedIds }

end Anime

end MediaNaming
