import MediaNaming.Media.Language

/-!
# Titles

Titles in a language and of a kind, and the choice of one of them.
-/

namespace MediaNaming

/-! ## Kinds of titles -/

inductive TitleKind where
  | plain
  | main
  | official
  | short
  | synonym
  | titleCard
  | kanjiReading
deriving DecidableEq

namespace TitleKind

def all : List TitleKind := [plain, main, official, short, synonym, titleCard, kanjiReading]

def name : TitleKind → String
  | plain => "None"
  | main => "Main"
  | official => "Official"
  | short => "Short"
  | synonym => "Synonym"
  | titleCard => "TitleCard"
  | kanjiReading => "KanjiReading"

def ofName? (name : String) : Option TitleKind :=
  all.find? fun kind => kind.name == name

def toJson (kind : TitleKind) : Json :=
  .text kind.name

def ofJson? (json : Json) : Option TitleKind :=
  json.name?.bind ofName?

@[simp] theorem ofName?_name (kind : TitleKind) : ofName? kind.name = some kind := by
  cases kind <;> decide +kernel

theorem name_of_ofName? {name : String} {kind : TitleKind} (h : ofName? name = some kind) :
    kind.name = name := by
  simpa using List.find?_some h

end TitleKind

/-! ## Titles -/

structure Title where
  text : String
  language : Language
  kind : TitleKind
deriving DecidableEq

namespace Title

/-- The first title of the language whose kind comes earliest in `kinds`; else its first title. -/
def pick? (titles : List Title) (language : Language) (kinds : List TitleKind) : Option Title :=
  let preferred := kinds.findSome? fun kind =>
    titles.find? fun title => title.language == language && title.kind == kind
  match preferred with
  | some title => some title
  | none => titles.find? fun title => title.language == language

/-- The text of the title that `pick?` chooses; empty if there is none. -/
def pickText (titles : List Title) (language : Language) (kinds : List TitleKind) : String :=
  match pick? titles language kinds with
  | some title => title.text
  | none => ""

def toJson (title : Title) : Json :=
  .object [
    ("text", .text title.text),
    ("language", title.language.toJson),
    ("kind", title.kind.toJson)]

def ofJson? (json : Json) : Option Title := do
  let record ← json.record? ["text", "language", "kind"]
  let text ← record.field "text" Json.text?
  let language ← record.field "language" Language.ofJson?
  let kind ← record.field "kind" TitleKind.ofJson?
  return { text, language, kind }

end Title

end MediaNaming
