import MediaNaming.Media.Language
import MediaNaming.Path

/-!
# Files

Media files: where they are, what they hold, and what is known about their release.
-/

namespace MediaNaming

/-! ## Checksums -/

structure Hashes where
  crc : String := ""
  ed2k : String := ""
  sha1 : String := ""
  md5 : String := ""
deriving DecidableEq

namespace Hashes

def toJson (hashes : Hashes) : Json :=
  .object [
    ("crc", .text hashes.crc),
    ("ed2k", .text hashes.ed2k),
    ("sha1", .text hashes.sha1),
    ("md5", .text hashes.md5)]

def ofJson? (json : Json) : Option Hashes := do
  let record ← json.record? ["crc", "ed2k", "sha1", "md5"]
  let crc ← record.fieldOr "crc" "" Json.text?
  let ed2k ← record.fieldOr "ed2k" "" Json.text?
  let sha1 ← record.fieldOr "sha1" "" Json.text?
  let md5 ← record.fieldOr "md5" "" Json.text?
  return { crc, ed2k, sha1, md5 }

end Hashes

/-! ## Streams -/

structure VideoStream where
  codec : String := ""
  width : Int64 := 0
  height : Int64 := 0
  bitDepth : Int64 := 0
deriving DecidableEq

namespace VideoStream

def toJson (video : VideoStream) : Json :=
  .object [
    ("codec", .text video.codec),
    ("width", .ofInt64 video.width),
    ("height", .ofInt64 video.height),
    ("bit_depth", .ofInt64 video.bitDepth)]

def ofJson? (json : Json) : Option VideoStream := do
  let record ← json.record? ["codec", "width", "height", "bit_depth"]
  let codec ← record.fieldOr "codec" "" Json.text?
  let width ← record.fieldOr "width" 0 Json.int64?
  let height ← record.fieldOr "height" 0 Json.int64?
  let bitDepth ← record.fieldOr "bit_depth" 0 Json.int64?
  return { codec, width, height, bitDepth }

end VideoStream

structure AudioStream where
  codec : String
  channels : Int64 := 0
  language : Option Language := none
deriving DecidableEq

namespace AudioStream

def toJson (audio : AudioStream) : Json :=
  .object [
    ("codec", .text audio.codec),
    ("channels", .ofInt64 audio.channels),
    ("language", .ofOption Language.toJson audio.language)]

def ofJson? (json : Json) : Option AudioStream := do
  let record ← json.record? ["codec", "channels", "language"]
  let codec ← record.field "codec" Json.text?
  let channels ← record.fieldOr "channels" 0 Json.int64?
  let language ← record.fieldOr "language" none (Json.option? Language.ofJson?)
  return { codec, channels, language }

end AudioStream

structure SubtitleStream where
  codec : String
  language : Option Language := none
deriving DecidableEq

namespace SubtitleStream

def toJson (subtitle : SubtitleStream) : Json :=
  .object [
    ("codec", .text subtitle.codec),
    ("language", .ofOption Language.toJson subtitle.language)]

def ofJson? (json : Json) : Option SubtitleStream := do
  let record ← json.record? ["codec", "language"]
  let codec ← record.field "codec" Json.text?
  let language ← record.fieldOr "language" none (Json.option? Language.ofJson?)
  return { codec, language }

end SubtitleStream

/-! ## Content -/

/-- What a file holds: its streams, its length in seconds, and whether it has chapters. -/
structure MediaContent where
  video : Option VideoStream := none
  audio : List AudioStream := []
  subtitles : List SubtitleStream := []
  seconds : UInt64 := 0
  chaptered : Bool := false
deriving DecidableEq

namespace MediaContent

def toJson (content : MediaContent) : Json :=
  .object [
    ("video", .ofOption VideoStream.toJson content.video),
    ("audio", .ofList AudioStream.toJson content.audio),
    ("subtitles", .ofList SubtitleStream.toJson content.subtitles),
    ("duration_secs", .ofUInt64 content.seconds),
    ("chaptered", .bool content.chaptered)]

def ofJson? (json : Json) : Option MediaContent := do
  let record ← json.record? ["video", "audio", "subtitles", "duration_secs", "chaptered"]
  let video ← record.fieldOr "video" none (Json.option? VideoStream.ofJson?)
  let audio ← record.fieldOr "audio" [] (Json.list? AudioStream.ofJson?)
  let subtitles ← record.fieldOr "subtitles" [] (Json.list? SubtitleStream.ofJson?)
  let seconds ← record.fieldOr "duration_secs" 0 Json.uint64?
  let chaptered ← record.fieldOr "chaptered" false Json.bool?
  return { video, audio, subtitles, seconds, chaptered }

end MediaContent

/-! ## Releases -/

structure ReleaseGroup where
  name : String := ""
  shortName : String := ""
deriving DecidableEq

namespace ReleaseGroup

def toJson (group : ReleaseGroup) : Json :=
  .object [
    ("name", .text group.name),
    ("short_name", .text group.shortName)]

def ofJson? (json : Json) : Option ReleaseGroup := do
  let record ← json.record? ["name", "short_name"]
  let name ← record.fieldOr "name" "" Json.text?
  let shortName ← record.fieldOr "short_name" "" Json.text?
  return { name, shortName }

end ReleaseGroup

/-- What the AniDB catalogue knows about the release that a file is of. -/
structure Release where
  id : Int64 := 0
  source : String := ""
  version : Int64 := 0
  censored : Bool := false
  group : Option ReleaseGroup := none
  audioLanguages : List Language := []
  subtitleLanguages : List Language := []
  releasedFilename : String := ""
deriving DecidableEq

namespace Release

def toJson (release : Release) : Json :=
  .object [
    ("id", .ofInt64 release.id),
    ("source", .text release.source),
    ("version", .ofInt64 release.version),
    ("censored", .bool release.censored),
    ("release_group", .ofOption ReleaseGroup.toJson release.group),
    ("audio_languages", .ofList Language.toJson release.audioLanguages),
    ("sub_languages", .ofList Language.toJson release.subtitleLanguages),
    ("original_filename", .text release.releasedFilename)]

def ofJson? (json : Json) : Option Release := do
  let record ← json.record?
    ["id", "source", "version", "censored", "release_group", "audio_languages", "sub_languages",
      "original_filename"]
  let id ← record.fieldOr "id" 0 Json.int64?
  let source ← record.fieldOr "source" "" Json.text?
  let version ← record.fieldOr "version" 0 Json.int64?
  let censored ← record.fieldOr "censored" false Json.bool?
  let group ← record.fieldOr "release_group" none (Json.option? ReleaseGroup.ofJson?)
  let audioLanguages ← record.fieldOr "audio_languages" [] (Json.list? Language.ofJson?)
  let subtitleLanguages ← record.fieldOr "sub_languages" [] (Json.list? Language.ofJson?)
  let releasedFilename ← record.fieldOr "original_filename" "" Json.text?
  return {
    id, source, version, censored, group, audioLanguages, subtitleLanguages, releasedFilename }

end Release

/-! ## Files -/

structure MediaFile where
  id : Int64
  path : String
  size : Int64 := 0
  hashes : Hashes := {}
  content : Option MediaContent := none
  release : Option Release := none
  manuallyLinked : Bool := false
deriving DecidableEq

namespace MediaFile

/-- The last component of the path; empty if the path names no file. -/
def fileName (file : MediaFile) : String :=
  Path.fileName file.path

/-- The extension with its dot; empty if there is none. -/
def extension (file : MediaFile) : String :=
  Path.extension file.path

def toJson (file : MediaFile) : Json :=
  .object [
    ("id", .ofInt64 file.id),
    ("path", .text file.path),
    ("size", .ofInt64 file.size),
    ("hashes", file.hashes.toJson),
    ("media", .ofOption MediaContent.toJson file.content),
    ("anidb", .ofOption Release.toJson file.release),
    ("manually_linked", .bool file.manuallyLinked)]

def ofJson? (json : Json) : Option MediaFile := do
  let record ← json.record?
    ["id", "path", "size", "hashes", "media", "anidb", "manually_linked"]
  let id ← record.field "id" Json.int64?
  let path ← record.field "path" Json.text?
  let size ← record.fieldOr "size" 0 Json.int64?
  let hashes ← record.fieldOr "hashes" {} Hashes.ofJson?
  let content ← record.fieldOr "media" none (Json.option? MediaContent.ofJson?)
  let release ← record.fieldOr "anidb" none (Json.option? Release.ofJson?)
  let manuallyLinked ← record.fieldOr "manually_linked" false Json.bool?
  return { id, path, size, hashes, content, release, manuallyLinked }

end MediaFile

end MediaNaming
