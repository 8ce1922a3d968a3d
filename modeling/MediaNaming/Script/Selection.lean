import MediaNaming.Script.Value
import MediaNaming.Text.Case
import MediaNaming.Text.Search

/-!
# Selections from collections

The elements of a collection that a filter keeps. Each keeps the kind of the elements and their
order.
-/

namespace MediaNaming.Collection

/-- The elements in a language; only titles and languages have one. -/
def inLanguage? (language : Language) : Collection → Option Collection
  | titles items => some (titles (items.filter fun title => title.language == language))
  | languages items => some (languages (items.filter (· == language)))
  | folders _ => none
  | texts _ => none

/-- The elements of a kind of titles; only titles have one. -/
def ofTitleKind? (kind : TitleKind) : Collection → Option Collection
  | titles items => some (titles (items.filter fun title => title.kind == kind))
  | languages _ => none
  | folders _ => none
  | texts _ => none

/-- Whether a folder has the text as its name or location, ignoring case. -/
def folderMatches (wanted : String) (folder : ImportFolder) : Bool :=
  Text.sameIgnoringCase folder.name wanted ||
    Text.sameIgnoringCase folder.normalizedLocation (normalizeLocation wanted)

/--
The elements that match a text, ignoring case: titles that contain it, the language of that name,
folders of that name or location, texts that are the same.
-/
def matchingText (wanted : String) : Collection → Collection
  | titles items =>
    let wanted := Text.lower wanted
    titles (items.filter fun title => Text.contains (Text.lower title.text) wanted)
  | languages items =>
    let wanted := Language.ofNameIgnoringCase? wanted
    languages (items.filter fun language => some language == wanted)
  | folders items => folders (items.filter (folderMatches wanted))
  | texts items => texts (items.filter fun text => Text.sameIgnoringCase text wanted)

@[simp] theorem elementKind_matchingText (wanted : String) (items : Collection) :
    (items.matchingText wanted).elementKind = items.elementKind := by
  cases items <;> rfl

end MediaNaming.Collection
