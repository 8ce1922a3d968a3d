/-!
# Labels

The words by which a script speaks about the file: each stands for a text, a number, a flag or a
collection.
-/

namespace MediaNaming

/-! ## Categories -/

/-- The categories of values. -/
inductive Category where
  | flag
  | text
  | number
  | collection
deriving DecidableEq

def Category.name : Category → String
  | flag => "boolean"
  | text => "string"
  | number => "number"
  | collection => "collection"

/-! ## Texts -/

inductive TextLabel where
  | animeTitlePreferred
  | animeTitleRomaji
  | animeTitleEnglish
  | animeTitleJapanese
  | episodeTitleRomaji
  | episodeTitleEnglish
  | episodeTitleJapanese
  | animeType
  | episodeType
  | episodePrefix
  | groupShort
  | groupLong
  | groupName
  | source
  | resolution
  | videoCodec
  | duration
  | crcLower
  | crcUpper
  | ed2kLower
  | ed2kUpper
  | sha1Lower
  | sha1Upper
  | md5Lower
  | md5Upper
  | oldFilename
  | releasedFilename
  | extension
deriving DecidableEq

namespace TextLabel

def all : List TextLabel := [
  animeTitlePreferred, animeTitleRomaji, animeTitleEnglish, animeTitleJapanese,
  episodeTitleRomaji, episodeTitleEnglish, episodeTitleJapanese, animeType, episodeType,
  episodePrefix, groupShort, groupLong, groupName, source, resolution, videoCodec, duration,
  crcLower, crcUpper, ed2kLower, ed2kUpper, sha1Lower, sha1Upper, md5Lower, md5Upper, oldFilename,
  releasedFilename, extension]

def name : TextLabel → String
  | animeTitlePreferred => "AnimeTitlePreferred"
  | animeTitleRomaji => "AnimeTitleRomaji"
  | animeTitleEnglish => "AnimeTitleEnglish"
  | animeTitleJapanese => "AnimeTitleJapanese"
  | episodeTitleRomaji => "EpisodeTitleRomaji"
  | episodeTitleEnglish => "EpisodeTitleEnglish"
  | episodeTitleJapanese => "EpisodeTitleJapanese"
  | animeType => "AnimeType"
  | episodeType => "EpisodeType"
  | episodePrefix => "EpisodePrefix"
  | groupShort => "GroupShort"
  | groupLong => "GroupLong"
  | groupName => "GroupName"
  | source => "Source"
  | resolution => "Resolution"
  | videoCodec => "VideoCodec"
  | duration => "Duration"
  | crcLower => "CrcLower"
  | crcUpper => "CrcUpper"
  | ed2kLower => "Ed2kLower"
  | ed2kUpper => "Ed2kUpper"
  | sha1Lower => "Sha1Lower"
  | sha1Upper => "Sha1Upper"
  | md5Lower => "Md5Lower"
  | md5Upper => "Md5Upper"
  | oldFilename => "OldFilename"
  | releasedFilename => "OriginalFilename"
  | extension => "Extension"

end TextLabel

/-! ## Numbers -/

inductive NumberLabel where
  | animeId
  | episodeId
  | fileId
  | episodeNumber
  | fileVersion
  | width
  | height
  | bitDepth
  | audioChannels
  | episodeCount
  | specialCount
  | airYear
  | episodeAirYear
  | fileSize
deriving DecidableEq

namespace NumberLabel

def all : List NumberLabel := [
  animeId, episodeId, fileId, episodeNumber, fileVersion, width, height, bitDepth, audioChannels,
  episodeCount, specialCount, airYear, episodeAirYear, fileSize]

def name : NumberLabel → String
  | animeId => "AnimeId"
  | episodeId => "EpisodeId"
  | fileId => "FileId"
  | episodeNumber => "EpisodeNumber"
  | fileVersion => "FileVersion"
  | width => "Width"
  | height => "Height"
  | bitDepth => "BitDepth"
  | audioChannels => "AudioChannels"
  | episodeCount => "EpisodeCount"
  | specialCount => "SpecialCount"
  | airYear => "AirYear"
  | episodeAirYear => "EpisodeAirYear"
  | fileSize => "FileSize"

end NumberLabel

/-! ## Flags -/

inductive FlagLabel where
  | restricted
  | censored
  | chaptered
  | manuallyLinked
  | inDropSource
  | multiLinked
  | multiAnime
deriving DecidableEq

namespace FlagLabel

def all : List FlagLabel := [
  restricted, censored, chaptered, manuallyLinked, inDropSource, multiLinked, multiAnime]

def name : FlagLabel → String
  | restricted => "Restricted"
  | censored => "Censored"
  | chaptered => "Chaptered"
  | manuallyLinked => "ManuallyLinked"
  | inDropSource => "InDropSource"
  | multiLinked => "MultiLinked"
  | multiAnime => "MultiAnime"

end FlagLabel

/-! ## Collections -/

inductive CollectionLabel where
  | animeTitles
  | episodeTitles
  | importFolders
  | audioCodecs
  | dubLanguages
  | subLanguages
deriving DecidableEq

namespace CollectionLabel

def all : List CollectionLabel := [
  animeTitles, episodeTitles, importFolders, audioCodecs, dubLanguages, subLanguages]

def name : CollectionLabel → String
  | animeTitles => "AnimeTitles"
  | episodeTitles => "EpisodeTitles"
  | importFolders => "ImportFolders"
  | audioCodecs => "AudioCodecs"
  | dubLanguages => "DubLanguages"
  | subLanguages => "SubLanguages"

end CollectionLabel

/-! ## Labels of any category -/

inductive Label where
  | text (label : TextLabel)
  | number (label : NumberLabel)
  | flag (label : FlagLabel)
  | collection (label : CollectionLabel)
deriving DecidableEq

namespace Label

def name : Label → String
  | text label => label.name
  | number label => label.name
  | flag label => label.name
  | collection label => label.name

def category : Label → Category
  | text _ => .text
  | number _ => .number
  | flag _ => .flag
  | collection _ => .collection

def all : List Label :=
  TextLabel.all.map text ++ NumberLabel.all.map number ++ FlagLabel.all.map flag ++
    CollectionLabel.all.map collection

def ofName? (name : String) : Option Label :=
  all.find? fun label => label.name == name

theorem mem_all (label : Label) : label ∈ all := by
  rcases label with label | label | label | label <;> cases label <;> decide

@[simp] theorem ofName?_name (label : Label) : ofName? label.name = some label := by
  have hall : ∀ label ∈ all, ofName? label.name = some label := by decide +kernel
  exact hall label (mem_all label)

theorem name_of_ofName? {name : String} {label : Label} (h : ofName? name = some label) :
    label.name = name := by
  simpa using List.find?_some h

end Label

end MediaNaming
