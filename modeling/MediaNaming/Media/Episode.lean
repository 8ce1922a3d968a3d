import MediaNaming.Media.Date
import MediaNaming.Media.Title

/-!
# Episodes

The episodes that a file holds.
-/

namespace MediaNaming

/-! ## Kinds of episodes -/

inductive EpisodeKind where
  | episode
  | special
  | credits
  | trailer
  | parody
  | other
  | unknown
deriving DecidableEq

namespace EpisodeKind

/-- The kinds in the order in which they are listed. -/
def all : List EpisodeKind := [episode, special, credits, trailer, parody, other, unknown]

/-- The place of a kind among the defined ones. -/
def ordinal? : EpisodeKind → Option Nat
  | episode => some 0
  | special => some 1
  | credits => some 2
  | trailer => some 3
  | parody => some 4
  | other => some 5
  | unknown => none

/-- The letter that stands before the numbers of a kind. -/
def letter : EpisodeKind → String
  | episode => ""
  | special => "S"
  | credits => "C"
  | trailer => "T"
  | parody => "P"
  | other => "O"
  | unknown => ""

def name : EpisodeKind → String
  | episode => "Episode"
  | special => "Special"
  | credits => "Credits"
  | trailer => "Trailer"
  | parody => "Parody"
  | other => "Other"
  | unknown => "Unknown"

/-- The kind of that name; any name that is not known means `unknown`. -/
def ofName (name : String) : EpisodeKind :=
  ([episode, special, credits, trailer, parody, other].find? fun kind => kind.name == name).getD
    unknown

def toJson (kind : EpisodeKind) : Json :=
  .text kind.name

def ofJson? (json : Json) : Option EpisodeKind :=
  json.name?.map ofName

@[simp] theorem ofName_name (kind : EpisodeKind) : ofName kind.name = kind := by
  cases kind <;> decide +kernel

end EpisodeKind

/-! ## Episodes -/

structure Episode where
  id : Int64
  animeId : Int64
  number : Int64
  kind : EpisodeKind
  airDate : Option Date := none
  titles : List Title := []
deriving DecidableEq

namespace Episode

def toJson (episode : Episode) : Json :=
  .object [
    ("id", .ofInt64 episode.id),
    ("anime_id", .ofInt64 episode.animeId),
    ("number", .ofInt64 episode.number),
    ("kind", episode.kind.toJson),
    ("air_date", .ofOption Date.toJson episode.airDate),
    ("titles", .ofList Title.toJson episode.titles)]

def ofJson? (json : Json) : Option Episode := do
  let record ← json.record? ["id", "anime_id", "number", "kind", "air_date", "titles"]
  let id ← record.field "id" Json.int64?
  let animeId ← record.field "anime_id" Json.int64?
  let number ← record.field "number" Json.int64?
  let kind ← record.field "kind" EpisodeKind.ofJson?
  let airDate ← record.fieldOr "air_date" none (Json.option? Date.ofJson?)
  let titles ← record.fieldOr "titles" [] (Json.list? Title.ofJson?)
  return { id, animeId, number, kind, airDate, titles }

end Episode

end MediaNaming
