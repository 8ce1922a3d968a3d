import MediaNaming.Media.Folder
import MediaNaming.Media.Title
import MediaNaming.Script.Label
import MediaNaming.Text.Decimal

/-!
# Values

What expressions evaluate to, and how a value is taken for one of another category.
-/

namespace MediaNaming

/-! ## Collections -/

/-- Elements of one kind, in order. -/
inductive Collection where
  | titles (items : List Title)
  | languages (items : List Language)
  | folders (items : List ImportFolder)
  | texts (items : List String)
deriving DecidableEq

namespace Collection

/-- The kinds of elements as messages name them. -/
def elementKind : Collection → String
  | titles _ => "titles"
  | languages _ => "languages"
  | folders _ => "import folders"
  | texts _ => "strings"

/-- The text that stands for each element. -/
def elementTexts : Collection → List String
  | titles items => items.map Title.text
  | languages items => items.map Language.name
  | folders items => items.map ImportFolder.name
  | texts items => items

def size (collection : Collection) : Nat :=
  collection.elementTexts.length

def isEmpty (collection : Collection) : Bool :=
  collection.elementTexts.isEmpty

/-- The text of the first element; empty if there is none. -/
def firstText (collection : Collection) : String :=
  collection.elementTexts.headD ""

end Collection

/-! ## Values -/

inductive Value where
  | flag (value : Bool)
  | text (value : String)
  | number (value : Int64)
  | collection (items : Collection)
deriving DecidableEq

namespace Value

def category : Value → Category
  | flag _ => .flag
  | text _ => .text
  | number _ => .number
  | collection _ => .collection

/-- Texts and collections are true unless they are empty, numbers unless they are zero. -/
def truthy : Value → Bool
  | flag value => value
  | text value => !value.isEmpty
  | number value => value != 0
  | collection items => !items.isEmpty

/-- The value as a text; a collection lists its elements. Flags have no text. -/
def toText? : Value → Option String
  | flag _ => none
  | text value => some value
  | number value => some (Text.int value.toInt)
  | collection items => some (", ".intercalate items.elementTexts)

/-- The value as a number: of texts and collections the size. Flags have no number. -/
def toNumber? : Value → Option Int64
  | flag _ => none
  | text value => some (Int64.ofNat value.length)
  | number value => some value
  | collection items => some (Int64.ofNat items.size)

theorem toText?_eq_none_iff {value : Value} : value.toText? = none ↔ value.category = .flag := by
  cases value <;> simp [toText?, category]

theorem toNumber?_eq_none_iff {value : Value} :
    value.toNumber? = none ↔ value.category = .flag := by
  cases value <;> simp [toNumber?, category]

end Value

end MediaNaming
