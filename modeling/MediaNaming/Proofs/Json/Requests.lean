import MediaNaming.Media.Request
import MediaNaming.Proofs.Json.Layouts
import MediaNaming.Proofs.Json.Sameness
import MediaNaming.Proofs.Media.Dates

/-!
# Requests survive JSON

Whatever a request is encoded as, its decoder gives the request back, from the value and from its
printed text. Every field is written, so no field is read as absent, and every kind has a name of
its own, so that the kinds which stand for names that are not known are read back as well.
-/

namespace MediaNaming

namespace Json

/-! ## Encodings -/

/-- The value can be printed, and what is the same as it is decoded as `a`. -/
structure Encodes {α : Type} (decode : Json → Option α) (json : Json) (a : α) : Prop where
  plain : json.Plain
  restores : Restores decode json a

/-- The same of the fields of a record, which `read` reads one after the other. -/
structure EncodesFields {α : Type} (read : Record → Option α) (members : List (String × Json))
    (a : α) : Prop where
  plain : PlainMembers members
  restores : ∀ record : Record, record.Holds members → read record = some a

section Values

variable {α : Type} {encode : α → Json} {decode : Json → Option α}

theorem encodes_text {text : String} {a : α} (h : decode (.text text) = some a) :
    Encodes decode (.text text) a :=
  ⟨.text text, restores_text h⟩

theorem encodes_bool (flag : Bool) : Encodes bool? (.bool flag) flag :=
  ⟨.bool flag, restores_bool flag⟩

theorem encodes_integer {n : Int} {a : α} (hn : Fits n) (h : decode (.integer n) = some a) :
    Encodes decode (.integer n) a :=
  ⟨.integer hn, restores_integer h⟩

theorem encodes_int64 (n : Int64) : Encodes int64? (.ofInt64 n) n := by
  have hmost : n.toInt < UInt64.size := Int.lt_trans n.toInt_lt (by decide)
  exact encodes_integer ⟨n.le_toInt, hmost⟩ (Text.toInt64?_toInt n)

theorem encodes_uint64 (n : UInt64) : Encodes uint64? (.ofUInt64 n) n := by
  have hrange : (0 : Int) ≤ n.toNat ∧ (n.toNat : Int) < UInt64.size :=
    ⟨Int.natCast_nonneg _, Int.ofNat_lt.mpr n.toNat_lt⟩
  refine encodes_integer ⟨Int.le_trans (by decide) hrange.1, hrange.2⟩ ?_
  rw [uint64?, Text.toUInt64?, if_pos hrange, Int.toNat_natCast, UInt64.ofNat_toNat]

theorem encodes_byte (n : UInt8) : Encodes byte? (.ofByte n) n := by
  have hrange : (0 : Int) ≤ n.toNat ∧ (n.toNat : Int) < 256 :=
    ⟨Int.natCast_nonneg _, Int.ofNat_lt.mpr n.toNat_lt⟩
  have hfits : Fits n.toNat :=
    ⟨Int.le_trans (by decide) hrange.1, Int.lt_trans hrange.2 (by decide)⟩
  refine encodes_integer hfits ?_
  rw [byte?, if_pos hrange, Int.toNat_natCast, UInt8.ofNat_toNat]

theorem encodes_option (h : ∀ a, Encodes decode (encode a) a)
    (hnull : ∀ a, (encode a).isNull = false) (value : Option α) :
    Encodes (option? decode) (ofOption encode value) value where
  plain := by
    cases value with
    | none => exact .null
    | some a => exact (h a).plain
  restores := restores_option (fun a => (h a).restores) hnull value

theorem encodes_list (h : ∀ a, Encodes decode (encode a) a) (as : List α) :
    Encodes (list? decode) (ofList encode as) as where
  plain := by
    refine .array ?_
    induction as with
    | nil => exact .nil
    | cons a as ih => exact .cons (h a).plain ih
  restores := restores_list (fun a => (h a).restores) as

end Values

section Records

variable {α β : Type} {members : List (String × Json)} {name : String} {value : Json} {a : α}
  {b : β} {decode : Json → Option β} {read : Record → Option α} {more : β → Record → Option α}

theorem encodes_record {names : List String} (hnames : members.map Prod.fst = names)
    (hnodup : names.Nodup) (h : EncodesFields read members a) :
    Encodes (fun json => json.record? names >>= read) (.object members) a where
  plain := .object h.plain
  restores found hsame := by
    obtain ⟨record, -, hrecord, hholds⟩ := hsame.record names hnames hnodup
    dsimp only
    rw [hrecord]
    exact h.restores record hholds

namespace EncodesFields

theorem done : EncodesFields (fun _ => some a) [] a :=
  ⟨.nil, fun _ _ => rfl⟩

/-- A field is read first, then the others. -/
theorem field (hvalue : Encodes decode value b) (hmore : EncodesFields (more b) members a) :
    EncodesFields (fun record => record.field name decode >>= fun b => more b record)
      ((name, value) :: members) a where
  plain := .cons hvalue.plain hmore.plain
  restores record h := by
    rw [h.field hvalue.restores List.mem_cons_self]
    exact hmore.restores record fun other found hmem => h other found (List.mem_cons_of_mem _ hmem)

/-- A field that may be absent is there. -/
theorem fieldOr {absent : β} (hvalue : Encodes decode value b)
    (hmore : EncodesFields (more b) members a) :
    EncodesFields (fun record => record.fieldOr name absent decode >>= fun b => more b record)
      ((name, value) :: members) a where
  plain := .cons hvalue.plain hmore.plain
  restores record h := by
    have hfield : record.fieldOr name absent decode = record.field name decode := by
      obtain ⟨found, hlookup, -⟩ := h name value List.mem_cons_self
      rw [Record.fieldOr, Record.field, hlookup, Option.bind_some]
    rw [hfield]
    exact (field hvalue hmore).restores record h

end EncodesFields

end Records

end Json

open Json

/-! ## Names and dates -/

theorem Language.encodes (language : Language) :
    Encodes Language.ofJson? language.toJson language :=
  encodes_text (by simp [Language.ofJson?, name?])

theorem TitleKind.encodes (kind : TitleKind) : Encodes TitleKind.ofJson? kind.toJson kind :=
  encodes_text (by simp [TitleKind.ofJson?, name?])

theorem AnimeKind.encodes (kind : AnimeKind) : Encodes AnimeKind.ofJson? kind.toJson kind :=
  encodes_text (by simp [AnimeKind.ofJson?, name?])

theorem EpisodeKind.encodes (kind : EpisodeKind) :
    Encodes EpisodeKind.ofJson? kind.toJson kind :=
  encodes_text (by simp [EpisodeKind.ofJson?, name?])

theorem Date.encodes (date : Date) : Encodes Date.ofJson? date.toJson date :=
  encodes_text (by simp [Date.ofJson?, text?, Date.ofString?_toString])

/-! ## Anime and episodes -/

theorem Title.encodes (title : Title) : Encodes Title.ofJson? title.toJson title :=
  encodes_record rfl (by decide) <|
    .field (encodes_text rfl) <|
    .field title.language.encodes <|
    .field title.kind.encodes <|
    .done

theorem EpisodeCounts.encodes (counts : EpisodeCounts) :
    Encodes EpisodeCounts.ofJson? counts.toJson counts :=
  encodes_record rfl (by decide) <|
    .fieldOr (encodes_int64 _) <|
    .fieldOr (encodes_int64 _) <|
    .fieldOr (encodes_int64 _) <|
    .fieldOr (encodes_int64 _) <|
    .fieldOr (encodes_int64 _) <|
    .fieldOr (encodes_int64 _) <|
    .done

theorem Anime.encodes (anime : Anime) : Encodes Anime.ofJson? anime.toJson anime :=
  encodes_record rfl (by decide) <|
    .field (encodes_int64 _) <|
    .field (encodes_text rfl) <|
    .fieldOr (encodes_list Title.encodes _) <|
    .fieldOr (encodes_bool _) <|
    .field anime.kind.encodes <|
    .fieldOr (encodes_option Date.encodes (fun _ => rfl) _) <|
    .fieldOr (encodes_option Date.encodes (fun _ => rfl) _) <|
    .fieldOr anime.episodeCounts.encodes <|
    .fieldOr (encodes_list encodes_int64 _) <|
    .done

theorem Episode.encodes (episode : Episode) : Encodes Episode.ofJson? episode.toJson episode :=
  encodes_record rfl (by decide) <|
    .field (encodes_int64 _) <|
    .field (encodes_int64 _) <|
    .field (encodes_int64 _) <|
    .field episode.kind.encodes <|
    .fieldOr (encodes_option Date.encodes (fun _ => rfl) _) <|
    .fieldOr (encodes_list Title.encodes _) <|
    .done

/-! ## Files -/

theorem Hashes.encodes (hashes : Hashes) : Encodes Hashes.ofJson? hashes.toJson hashes :=
  encodes_record rfl (by decide) <|
    .fieldOr (encodes_text rfl) <|
    .fieldOr (encodes_text rfl) <|
    .fieldOr (encodes_text rfl) <|
    .fieldOr (encodes_text rfl) <|
    .done

theorem VideoStream.encodes (video : VideoStream) :
    Encodes VideoStream.ofJson? video.toJson video :=
  encodes_record rfl (by decide) <|
    .fieldOr (encodes_text rfl) <|
    .fieldOr (encodes_int64 _) <|
    .fieldOr (encodes_int64 _) <|
    .fieldOr (encodes_int64 _) <|
    .done

theorem AudioStream.encodes (audio : AudioStream) :
    Encodes AudioStream.ofJson? audio.toJson audio :=
  encodes_record rfl (by decide) <|
    .field (encodes_text rfl) <|
    .fieldOr (encodes_int64 _) <|
    .fieldOr (encodes_option Language.encodes (fun _ => rfl) _) <|
    .done

theorem SubtitleStream.encodes (subtitle : SubtitleStream) :
    Encodes SubtitleStream.ofJson? subtitle.toJson subtitle :=
  encodes_record rfl (by decide) <|
    .field (encodes_text rfl) <|
    .fieldOr (encodes_option Language.encodes (fun _ => rfl) _) <|
    .done

theorem MediaContent.encodes (content : MediaContent) :
    Encodes MediaContent.ofJson? content.toJson content :=
  encodes_record rfl (by decide) <|
    .fieldOr (encodes_option VideoStream.encodes (fun _ => rfl) _) <|
    .fieldOr (encodes_list AudioStream.encodes _) <|
    .fieldOr (encodes_list SubtitleStream.encodes _) <|
    .fieldOr (encodes_uint64 _) <|
    .fieldOr (encodes_bool _) <|
    .done

theorem ReleaseGroup.encodes (group : ReleaseGroup) :
    Encodes ReleaseGroup.ofJson? group.toJson group :=
  encodes_record rfl (by decide) <|
    .fieldOr (encodes_text rfl) <|
    .fieldOr (encodes_text rfl) <|
    .done

theorem Release.encodes (release : Release) : Encodes Release.ofJson? release.toJson release :=
  encodes_record rfl (by decide) <|
    .fieldOr (encodes_int64 _) <|
    .fieldOr (encodes_text rfl) <|
    .fieldOr (encodes_int64 _) <|
    .fieldOr (encodes_bool _) <|
    .fieldOr (encodes_option ReleaseGroup.encodes (fun _ => rfl) _) <|
    .fieldOr (encodes_list Language.encodes _) <|
    .fieldOr (encodes_list Language.encodes _) <|
    .fieldOr (encodes_text rfl) <|
    .done

theorem MediaFile.encodes (file : MediaFile) : Encodes MediaFile.ofJson? file.toJson file :=
  encodes_record rfl (by decide) <|
    .field (encodes_int64 _) <|
    .field (encodes_text rfl) <|
    .fieldOr (encodes_int64 _) <|
    .fieldOr file.hashes.encodes <|
    .fieldOr (encodes_option MediaContent.encodes (fun _ => rfl) _) <|
    .fieldOr (encodes_option Release.encodes (fun _ => rfl) _) <|
    .fieldOr (encodes_bool _) <|
    .done

/-! ## Requests -/

theorem AnimeGroup.encodes (group : AnimeGroup) : Encodes AnimeGroup.ofJson? group.toJson group :=
  encodes_record rfl (by decide) <|
    .fieldOr (encodes_text rfl) <|
    .fieldOr (encodes_list encodes_int64 _) <|
    .done

theorem ImportFolder.encodes (folder : ImportFolder) :
    Encodes ImportFolder.ofJson? folder.toJson folder :=
  encodes_record rfl (by decide) <|
    .field (encodes_int64 _) <|
    .field (encodes_text rfl) <|
    .field (encodes_text rfl) <|
    .fieldOr (encodes_byte _) <|
    .done

theorem Request.encodes (request : Request) : Encodes Request.ofJson? request.toJson request :=
  encodes_record rfl (by decide) <|
    .field request.file.encodes <|
    .field (encodes_list Anime.encodes _) <|
    .field (encodes_list Episode.encodes _) <|
    .fieldOr (encodes_option AnimeGroup.encodes (fun _ => rfl) _) <|
    .fieldOr (encodes_list ImportFolder.encodes _) <|
    .done

/-- A request is read back from its printed text, in either layout. -/
theorem Request.reads_printed (request : Request) :
    (read? request.toJson.compact).bind ofJson? = some request ∧
      (read? request.toJson.pretty).bind ofJson? = some request := by
  obtain ⟨hplain, hrestores⟩ := request.encodes
  rw [read?_compact hplain, read?_pretty hplain]
  exact ⟨hrestores.decode_eq, hrestores.decode_eq⟩

/--
A request is read back from what it is encoded as, in whatever order the members of objects come,
whatever it was first read from, and from the text of this. Two requests are not encoded as the same
JSON value.
-/
theorem Request.metadata_survives_json :
    (∀ (request : Request) (json : Json), Same json request.toJson →
      Request.ofJson? json = some request) ∧
    (∀ (json : Json) (request : Request), Request.ofJson? json = some request →
      Request.ofJson? request.toJson = some request) ∧
    (∀ request : Request,
      (read? request.toJson.compact).bind Request.ofJson? = some request ∧
        (read? request.toJson.pretty).bind Request.ofJson? = some request) ∧
    ∀ left right : Request, Same left.toJson right.toJson → left = right :=
  have hrestores (request : Request) := request.encodes.restores
  ⟨hrestores, fun _ request _ => (hrestores request).decode_eq, Request.reads_printed,
    fun _ _ hsame => Restores.encode_inj hrestores hsame⟩

/-- Fields are left out, one field and the names of kinds are not known, and the years are the first
and the last one. -/
theorem Request.metadata_survives_json_of_defaults :
    let json : Json := .object [
      ("note", .null),
      ("episodes", .array [.object [
        ("id", .integer 1), ("anime_id", .integer 2), ("number", .integer 3),
        ("kind", .text "Pilot")]]),
      ("anime", .array [.object [
        ("id", .integer (-9223372036854775808)), ("preferred_title", .text "Ā"),
        ("kind", .text "Doujin"), ("air_date", .text "-262143-1-1"),
        ("end_date", .text "+262142-12-31")]]),
      ("file", .object [("id", .integer 4), ("path", .text "a.mkv")])]
    let request : Request := {
      file := { id := 4, path := "a.mkv" }
      anime := [{
        id := -9223372036854775808, preferredTitle := "Ā", kind := .other,
        airDate := some ⟨-262143, 1, 1, by decide⟩
        endDate := some ⟨262142, 12, 31, by decide⟩ }]
      episodes := [{ id := 1, animeId := 2, number := 3, kind := .unknown }] }
    let reversed : Json := match request.toJson with
      | .object members => .object members.reverse
      | other => other
    Request.ofJson? json = some request ∧ Request.ofJson? request.toJson = some request ∧
      Same reversed request.toJson ∧ Request.ofJson? reversed = some request ∧
      ¬ Same reversed (Request.toJson { request with episodes := [] }) := by
  intro json request reversed
  have hread : Request.ofJson? json = some request := by decide +kernel
  have hreversed : Same reversed request.toJson := .object (List.reverse_perm _) (.refl _)
  obtain ⟨hrestores, hagain, -⟩ := Request.metadata_survives_json
  refine ⟨hread, hagain json request hread, hreversed, hrestores request reversed hreversed, ?_⟩
  intro hother
  have hread' := hrestores _ reversed hother
  rw [hrestores request reversed hreversed] at hread'
  exact absurd hread' (by decide +kernel)

end MediaNaming
