import MediaNaming.Media.Anime
import MediaNaming.Media.Episode
import MediaNaming.Media.File
import MediaNaming.Media.Folder

/-!
# Requests

All that is known about a file that is to be renamed.
-/

namespace MediaNaming

/-! ## Groups -/

/-- A group of anime that belong together. -/
structure AnimeGroup where
  name : String := ""
  animeIds : List Int64 := []
deriving DecidableEq

namespace AnimeGroup

def toJson (group : AnimeGroup) : Json :=
  .object [
    ("name", .text group.name),
    ("anime_ids", .ofList Json.ofInt64 group.animeIds)]

def ofJson? (json : Json) : Option AnimeGroup := do
  let record ← json.record? ["name", "anime_ids"]
  let name ← record.fieldOr "name" "" Json.text?
  let animeIds ← record.fieldOr "anime_ids" [] (Json.list? Json.int64?)
  return { name, animeIds }

end AnimeGroup

/-! ## Requests -/

structure Request where
  file : MediaFile
  anime : List Anime
  episodes : List Episode
  group : Option AnimeGroup := none
  importFolders : List ImportFolder := []
deriving DecidableEq

namespace Request

/-- The anime that the labels speak about. -/
def primaryAnime? (request : Request) : Option Anime :=
  request.anime.head?

/-- The episode that the labels speak about. -/
def primaryEpisode? (request : Request) : Option Episode :=
  request.episodes.head?

def toJson (request : Request) : Json :=
  .object [
    ("file", request.file.toJson),
    ("anime", .ofList Anime.toJson request.anime),
    ("episodes", .ofList Episode.toJson request.episodes),
    ("group", .ofOption AnimeGroup.toJson request.group),
    ("import_folders", .ofList ImportFolder.toJson request.importFolders)]

def ofJson? (json : Json) : Option Request := do
  let record ← json.record? ["file", "anime", "episodes", "group", "import_folders"]
  let file ← record.field "file" MediaFile.ofJson?
  let anime ← record.field "anime" (Json.list? Anime.ofJson?)
  let episodes ← record.field "episodes" (Json.list? Episode.ofJson?)
  let group ← record.fieldOr "group" none (Json.option? AnimeGroup.ofJson?)
  let importFolders ← record.fieldOr "import_folders" [] (Json.list? ImportFolder.ofJson?)
  return { file, anime, episodes, group, importFolders }

end Request

end MediaNaming
