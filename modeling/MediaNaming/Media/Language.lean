import MediaNaming.Json.Decode
import MediaNaming.Text.Blank
import MediaNaming.Text.Case

/-!
# Languages

The languages of titles and streams.
-/

namespace MediaNaming

inductive Language where
  | unknown
  | romaji
  | english
  | japanese
  | chinese
  | chineseSimplified
  | chineseTraditional
  | pinyin
  | korean
  | koreanTranscription
  | thai
  | french
  | german
  | spanish
  | italian
  | portuguese
  | brazilianPortuguese
  | russian
  | polish
  | dutch
  | swedish
  | norwegian
  | danish
  | finnish
  | arabic
  | hebrew
  | turkish
  | indonesian
  | vietnamese
  | czech
  | hungarian
  | greek
deriving DecidableEq

namespace Language

def all : List Language := [
  unknown, romaji, english, japanese, chinese, chineseSimplified, chineseTraditional, pinyin,
  korean, koreanTranscription, thai, french, german, spanish, italian, portuguese,
  brazilianPortuguese, russian, polish, dutch, swedish, norwegian, danish, finnish, arabic, hebrew,
  turkish, indonesian, vietnamese, czech, hungarian, greek]

def name : Language → String
  | unknown => "Unknown"
  | romaji => "Romaji"
  | english => "English"
  | japanese => "Japanese"
  | chinese => "Chinese"
  | chineseSimplified => "ChineseSimplified"
  | chineseTraditional => "ChineseTraditional"
  | pinyin => "Pinyin"
  | korean => "Korean"
  | koreanTranscription => "KoreanTranscription"
  | thai => "Thai"
  | french => "French"
  | german => "German"
  | spanish => "Spanish"
  | italian => "Italian"
  | portuguese => "Portuguese"
  | brazilianPortuguese => "BrazilianPortuguese"
  | russian => "Russian"
  | polish => "Polish"
  | dutch => "Dutch"
  | swedish => "Swedish"
  | norwegian => "Norwegian"
  | danish => "Danish"
  | finnish => "Finnish"
  | arabic => "Arabic"
  | hebrew => "Hebrew"
  | turkish => "Turkish"
  | indonesian => "Indonesian"
  | vietnamese => "Vietnamese"
  | czech => "Czech"
  | hungarian => "Hungarian"
  | greek => "Greek"

def ofName? (name : String) : Option Language :=
  all.find? fun language => language.name == name

/-- The language of that name, blanks around it and the case of its letters aside. -/
def ofNameIgnoringCase? (name : String) : Option Language :=
  all.find? fun language => Text.sameIgnoringAsciiCase language.name (Text.trim name)

def toJson (language : Language) : Json :=
  .text language.name

def ofJson? (json : Json) : Option Language :=
  json.name?.bind ofName?

@[simp] theorem ofName?_name (language : Language) : ofName? language.name = some language := by
  cases language <;> decide +kernel

theorem name_of_ofName? {name : String} {language : Language} (h : ofName? name = some language) :
    language.name = name := by
  simpa using List.find?_some h

end Language

end MediaNaming
