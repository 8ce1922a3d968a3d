import MediaNaming.Media.Request
import MediaNaming.Script.Value
import MediaNaming.Text.Case

/-!
# What labels stand for

The value of each label in a request. What a request does not tell is an empty text, zero, false or
an empty collection, so every label has a value in every request.
-/

namespace MediaNaming

/-! ## Lengths of time -/

/-- Seconds as hours, minutes and seconds, the last two of two digits. -/
def clockText (seconds : Nat) : String :=
  String.ofList (
    Text.natChars (seconds / 3600) ++ ':' :: Text.paddedInt 2 (seconds % 3600 / 60 : Nat) ++
      ':' :: Text.paddedInt 2 (seconds % 60 : Nat))

example : clockText 1441 = "0:24:01" ∧ clockText 7322 = "2:02:02" := by decide +kernel

/-! ## Distinct elements -/

/-- The distinct languages, each where it comes first. -/
def firstOccurrences (languages : List Language) : List Language :=
  (languages.foldl (fun seen language => if language ∈ seen then seen else language :: seen)
    []).reverse

namespace Request

/-! ## Parts of a request -/

def content? (request : Request) : Option MediaContent :=
  request.file.content

def video? (request : Request) : Option VideoStream :=
  request.content?.bind MediaContent.video

def release? (request : Request) : Option Release :=
  request.file.release

def releaseGroup? (request : Request) : Option ReleaseGroup :=
  request.release?.bind Release.group

/-- What a part of the request holds, or the empty text if there is no such part. -/
def textOf {α : Type} (part : Option α) (field : α → String) : String :=
  (part.map field).getD ""

/-- What a part of the request holds, or zero if there is no such part. -/
def numberOf {α : Type} (part : Option α) (field : α → Int64) : Int64 :=
  (part.map field).getD 0

/-- Whether a part of the request is there and has a property. -/
def flagOf {α : Type} (part : Option α) (field : α → Bool) : Bool :=
  part.any field

/-- What a part of the request lists; nothing if there is no such part. -/
def listOf {α β : Type} (part : Option α) (field : α → List β) : List β :=
  (part.map field).getD []

def animeTitle (request : Request) (language : Language) (kinds : List TitleKind) : String :=
  Title.pickText (listOf request.primaryAnime? Anime.titles) language kinds

def episodeTitle (request : Request) (language : Language) : String :=
  Title.pickText (listOf request.primaryEpisode? Episode.titles) language [.main, .official]

/-- Width and height, if both are known. -/
def resolution (video : VideoStream) : String :=
  if 0 < video.width ∧ 0 < video.height then
    Text.int video.width.toInt ++ "x" ++ Text.int video.height.toInt
  else
    ""

/-- The length of the content, if it is known. -/
def duration (content : MediaContent) : String :=
  if content.seconds = 0 then "" else clockText content.seconds.toNat

/-- The greatest number of channels of a stream. -/
def mostChannels (content : MediaContent) : Int64 :=
  match content.audio.map AudioStream.channels with
  | [] => 0
  | n :: ns => ns.foldl max n

def yearOf (date : Option Date) : Int64 :=
  numberOf date fun date => Int64.ofInt date.year

/-- The languages of a release; if it lists none, those of the streams of the file itself. -/
def languagesOf (request : Request) (listed : Release → List Language)
    (streams : MediaContent → List (Option Language)) : List Language :=
  let ofRelease := listOf request.release? listed
  if ofRelease.isEmpty then
    firstOccurrences ((listOf request.content? streams).filterMap id)
  else
    ofRelease

/-! ## Labels -/

def text (request : Request) : TextLabel → String
  | .animeTitlePreferred => textOf request.primaryAnime? Anime.preferredTitle
  | .animeTitleRomaji => request.animeTitle .romaji [.main, .official]
  | .animeTitleEnglish => request.animeTitle .english [.official, .main]
  | .animeTitleJapanese => request.animeTitle .japanese [.official, .main]
  | .episodeTitleRomaji => request.episodeTitle .romaji
  | .episodeTitleEnglish => request.episodeTitle .english
  | .episodeTitleJapanese => request.episodeTitle .japanese
  | .animeType => textOf request.primaryAnime? fun anime => anime.kind.displayName
  | .episodeType => textOf request.primaryEpisode? fun episode => episode.kind.name
  | .episodePrefix => textOf request.primaryEpisode? fun episode => episode.kind.letter
  | .groupShort => textOf request.releaseGroup? ReleaseGroup.shortName
  | .groupLong => textOf request.releaseGroup? ReleaseGroup.name
  | .groupName => textOf request.group AnimeGroup.name
  | .source => textOf request.release? Release.source
  | .resolution => textOf request.video? resolution
  | .videoCodec => textOf request.video? VideoStream.codec
  | .duration => textOf request.content? duration
  | .crcLower => Text.lower request.file.hashes.crc
  | .crcUpper => Text.upper request.file.hashes.crc
  | .ed2kLower => Text.lower request.file.hashes.ed2k
  | .ed2kUpper => Text.upper request.file.hashes.ed2k
  | .sha1Lower => Text.lower request.file.hashes.sha1
  | .sha1Upper => Text.upper request.file.hashes.sha1
  | .md5Lower => Text.lower request.file.hashes.md5
  | .md5Upper => Text.upper request.file.hashes.md5
  | .oldFilename => request.file.fileName
  | .releasedFilename => textOf request.release? Release.releasedFilename
  | .extension => String.ofList (request.file.extension.toList.dropWhile (· == '.'))

def number (request : Request) : NumberLabel → Int64
  | .animeId => numberOf request.primaryAnime? Anime.id
  | .episodeId => numberOf request.primaryEpisode? Episode.id
  | .fileId => request.file.id
  | .episodeNumber => numberOf request.primaryEpisode? Episode.number
  | .fileVersion => numberOf request.release? Release.version
  | .width => numberOf request.video? VideoStream.width
  | .height => numberOf request.video? VideoStream.height
  | .bitDepth => numberOf request.video? VideoStream.bitDepth
  | .audioChannels => numberOf request.content? mostChannels
  | .episodeCount => numberOf request.primaryAnime? fun anime => anime.episodeCounts.episodes
  | .specialCount => numberOf request.primaryAnime? fun anime => anime.episodeCounts.specials
  | .airYear => numberOf request.primaryAnime? fun anime => yearOf anime.airDate
  | .episodeAirYear => numberOf request.primaryEpisode? fun episode => yearOf episode.airDate
  | .fileSize => request.file.size

def flag (request : Request) : FlagLabel → Bool
  | .restricted => flagOf request.primaryAnime? Anime.restricted
  | .censored => flagOf request.release? Release.censored
  | .chaptered => flagOf request.content? MediaContent.chaptered
  | .manuallyLinked => request.file.manuallyLinked
  | .inDropSource =>
    request.importFolders.any fun folder =>
      folder.isSource && (folder.depthAbove? request.file.path).isSome
  | .multiLinked => 1 < request.episodes.length
  | .multiAnime => 1 < request.anime.length

def collection (request : Request) : CollectionLabel → Collection
  | .animeTitles => .titles (listOf request.primaryAnime? Anime.titles)
  | .episodeTitles => .titles (listOf request.primaryEpisode? Episode.titles)
  | .importFolders => .folders request.importFolders
  | .audioCodecs =>
    .texts (listOf request.content? fun content => content.audio.map AudioStream.codec)
  | .dubLanguages =>
    .languages (request.languagesOf Release.audioLanguages fun content =>
      content.audio.map AudioStream.language)
  | .subLanguages =>
    .languages (request.languagesOf Release.subtitleLanguages fun content =>
      content.subtitles.map SubtitleStream.language)

/-- The value of a label of any category. -/
def value (request : Request) : Label → Value
  | .text label => .text (request.text label)
  | .number label => .number (request.number label)
  | .flag label => .flag (request.flag label)
  | .collection label => .collection (request.collection label)

@[simp] theorem category_value (request : Request) (label : Label) :
    (request.value label).category = label.category := by
  cases label <;> rfl

end Request

end MediaNaming
