import MediaNaming.Json.Decode
import MediaNaming.Script.Syntax

/-!
# Programs as JSON

A program as a JSON value, and back. What a node is stands in the name of its only member;
expressions have their category around that. A node without parts is a text. The fields of a node
are read in any order, and others are passed over.
-/

namespace MediaNaming

/-! ## Tags -/

/-- What a node is: a category of expressions, or a form of expressions, filters or statements. -/
inductive Tag where
  | bool
  | str
  | num
  | coll
  | literal
  | label
  | not
  | and
  | or
  | compare
  | concat
  | first
  | substr
  | trunc
  | trim
  | upper
  | lower
  | pad
  | episodeRanges
  | len
  | has
  | language
  | titleKind
  | text
  | conditional
  | set
  | add
  | replace
  | skip
  | cancel
deriving DecidableEq

namespace Tag

def all : List Tag :=
  [bool, str, num, coll, literal, label, not, and, or, compare, concat, first, substr, trunc, trim,
    upper, lower, pad, episodeRanges, len, has, language, titleKind, text, conditional, set, add,
    replace, skip, cancel]

def name : Tag → String
  | bool => "Bool"
  | str => "Str"
  | num => "Num"
  | coll => "Coll"
  | literal => "Literal"
  | label => "Label"
  | not => "Not"
  | and => "And"
  | or => "Or"
  | compare => "Compare"
  | concat => "Concat"
  | first => "First"
  | substr => "Substr"
  | trunc => "Trunc"
  | trim => "Trim"
  | upper => "Upper"
  | lower => "Lower"
  | pad => "Pad"
  | episodeRanges => "EpisodeRanges"
  | len => "Len"
  | has => "Has"
  | language => "Language"
  | titleKind => "TitleKind"
  | text => "Text"
  | conditional => "Conditional"
  | set => "Set"
  | add => "Add"
  | replace => "Replace"
  | skip => "Skip"
  | cancel => "Cancel"

def ofName? (name : String) : Option Tag :=
  all.find? fun tag => tag.name == name

@[simp] theorem ofName?_name (tag : Tag) : ofName? tag.name = some tag := by
  cases tag <;> decide +kernel

end Tag

/-- A node with parts. -/
def Json.tagged (tag : Tag) (parts : Json) : Json :=
  .object [(tag.name, parts)]

/-! ## Words -/

namespace Comparison

def tag : Comparison → String
  | equal => "Eq"
  | notEqual => "Ne"
  | less => "Lt"
  | lessEqual => "Le"
  | greater => "Gt"
  | greaterEqual => "Ge"

def ofTag? (tag : String) : Option Comparison :=
  [equal, notEqual, less, lessEqual, greater, greaterEqual].find? fun comparison =>
    comparison.tag == tag

def ofJson? (json : Json) : Option Comparison :=
  json.name?.bind ofTag?

@[simp] theorem ofTag?_tag (comparison : Comparison) : ofTag? comparison.tag = some comparison := by
  cases comparison <;> decide +kernel

end Comparison

namespace Target

def tag : Target → String
  | filename => "Filename"
  | destination => "Destination"
  | subfolder => "Subfolder"
  | unnamed => "DefaultFilename"

def ofTag? (tag : String) : Option Target :=
  [filename, destination, subfolder, unnamed].find? fun target => target.tag == tag

def ofJson? (json : Json) : Option Target :=
  json.name?.bind ofTag?

@[simp] theorem ofTag?_tag (target : Target) : ofTag? target.tag = some target := by
  cases target <;> decide +kernel

end Target

def Conversion.tag : Conversion → Tag
  | trim => .trim
  | upper => .upper
  | lower => .lower

/-- The tag around the expressions of a category. -/
def Category.tag : Category → Tag
  | flag => .bool
  | text => .str
  | number => .num
  | collection => .coll

/-! ## Writing -/

/-- A node with the tag of its expression's category around it. -/
def Expr.inCategory (expr : Expr) (node : Json) : Json :=
  .tagged expr.category.tag node

mutual

/-- The node of an expression, without its category. -/
def Expr.nodeJson : Expr → Json
  | .flag value => .tagged .literal (.bool value)
  | .text value => .tagged .literal (.text value)
  | .number value => .tagged .literal (.ofInt64 value)
  | .label l => .tagged .label (.text l.name)
  | .not a => .tagged .not (a.inCategory a.nodeJson)
  | .and a b => .tagged .and (.array [a.inCategory a.nodeJson, b.inCategory b.nodeJson])
  | .or a b => .tagged .or (.array [a.inCategory a.nodeJson, b.inCategory b.nodeJson])
  | .compare comparison a b =>
    .tagged .compare (.object [
      ("op", .text comparison.tag),
      ("lhs", a.inCategory a.nodeJson),
      ("rhs", b.inCategory b.nodeJson)])
  | .concat parts => .tagged .concat (.array (Expr.listJson parts))
  | .first a => .tagged .first (a.inCategory a.nodeJson)
  | .rest a b =>
    .tagged .substr (.object [
      ("text", a.inCategory a.nodeJson), ("start", b.inCategory b.nodeJson), ("len", .null)])
  | .substr a b c =>
    .tagged .substr (.object [
      ("text", a.inCategory a.nodeJson),
      ("start", b.inCategory b.nodeJson),
      ("len", c.inCategory c.nodeJson)])
  | .trunc a b =>
    .tagged .trunc (.object [
      ("text", a.inCategory a.nodeJson), ("len", b.inCategory b.nodeJson)])
  | .convert conversion a => .tagged conversion.tag (a.inCategory a.nodeJson)
  | .pad a b =>
    .tagged .pad (.object [
      ("value", a.inCategory a.nodeJson), ("width", b.inCategory b.nodeJson)])
  | .episodes a => .tagged .episodeRanges (.object [("width", a.inCategory a.nodeJson)])
  | .len a => .tagged .len (a.inCategory a.nodeJson)
  | .has a filters =>
    .tagged .has (.object [
      ("source", a.inCategory a.nodeJson), ("filters", .array (Filter.listJson filters))])

def Expr.listJson : List Expr → List Json
  | [] => []
  | a :: exprs => a.inCategory a.nodeJson :: Expr.listJson exprs

def Filter.toJson : Filter → Json
  | .language language => .tagged .language language.toJson
  | .titleKind kind => .tagged .titleKind kind.toJson
  | .text a => .tagged .text (a.inCategory a.nodeJson)

def Filter.listJson : List Filter → List Json
  | [] => []
  | filter :: filters => filter.toJson :: Filter.listJson filters

end

def Expr.toJson (expr : Expr) : Json :=
  expr.inCategory expr.nodeJson

mutual

def Statement.toJson : Statement → Json
  | .choose branches =>
    .tagged .conditional (.object [
      ("arms", .array branches.armsJson), ("otherwise", branches.otherwiseJson)])
  | .set target parts =>
    .tagged .set (.object [
      ("target", .text target.tag), ("parts", .array (Expr.listJson parts))])
  | .add target parts =>
    .tagged .add (.object [
      ("target", .text target.tag), ("parts", .array (Expr.listJson parts))])
  | .replace target pattern image =>
    .tagged .replace (.object [
      ("target", .text target.tag), ("from", pattern.toJson), ("to", image.toJson)])
  | .skip => .text Tag.skip.name
  | .cancel parts => .tagged .cancel (.array (Expr.listJson parts))

/-- The branches with a condition. -/
def Branches.armsJson : Branches → List Json
  | .done => []
  | .otherwise _ => []
  | .branch condition body rest =>
    .object [("condition", condition.toJson), ("body", .array (Statement.listJson body))] ::
      rest.armsJson

/-- The branch without a condition, or `null`. -/
def Branches.otherwiseJson : Branches → Json
  | .done => .null
  | .otherwise body => .array (Statement.listJson body)
  | .branch _ _ rest => rest.otherwiseJson

def Statement.listJson : List Statement → List Json
  | [] => []
  | statement :: statements => statement.toJson :: Statement.listJson statements

end

def Program.toJson (program : Program) : Json :=
  .object [("statements", .array (Statement.listJson program.statements))]

/-! ## Reading -/

namespace Json

def isNull : Json → Bool
  | .null => true
  | _ => false

/-- The fields of a node that are called `names`: members of an object, each there once at most. -/
def fields? (names : List String) : Json → Option Record
  | .object members => record? names (.object members)
  | _ => none

/-- There is no such field, or no value in it. -/
def Record.lacks (record : Record) (name : String) : Bool :=
  (record.lookup name).all isNull

end Json

/-- The label of that name, if it is of the category with the tag. -/
def Expr.labelOfName? (category : Tag) (name : String) : Option Expr :=
  match Label.ofName? name with
  | some l => if l.category.tag = category then some (.label l) else none
  | none => none

mutual

def Expr.ofJson? : Json → Option Expr
  | .object [(category, .object [(form, parts)])] => do
    let category ← Tag.ofName? category
    let form ← Tag.ofName? form
    match category, form with
    | .bool, .literal => parts.bool?.map .flag
    | .str, .literal => parts.text?.map .text
    | .num, .literal => parts.int64?.map .number
    | category, .label => parts.name?.bind (Expr.labelOfName? category)
    | .bool, .not => do
      let a ← Expr.ofJson? parts
      return .not a
    | .bool, .and => do
      let (a, b) ← Expr.pairOfJson? parts
      return .and a b
    | .bool, .or => do
      let (a, b) ← Expr.pairOfJson? parts
      return .or a b
    | .bool, .compare => do
      let record ← parts.fields? ["op", "lhs", "rhs"]
      let comparison ← record.field "op" Comparison.ofJson?
      let a ← Expr.fieldOfJson? "lhs" parts
      let b ← Expr.fieldOfJson? "rhs" parts
      return .compare comparison a b
    | .str, .concat => do
      let parts ← Expr.arrayOfJson? parts
      return .concat parts
    | .str, .first => do
      let a ← Expr.ofJson? parts
      return .first a
    | .str, .substr => do
      let record ← parts.fields? ["text", "start", "len"]
      let a ← Expr.fieldOfJson? "text" parts
      let b ← Expr.fieldOfJson? "start" parts
      if record.lacks "len" then
        return .rest a b
      else
        let c ← Expr.fieldOfJson? "len" parts
        return .substr a b c
    | .str, .trunc => do
      let _ ← parts.fields? ["text", "len"]
      let a ← Expr.fieldOfJson? "text" parts
      let b ← Expr.fieldOfJson? "len" parts
      return .trunc a b
    | .str, .trim => do
      let a ← Expr.ofJson? parts
      return .convert .trim a
    | .str, .upper => do
      let a ← Expr.ofJson? parts
      return .convert .upper a
    | .str, .lower => do
      let a ← Expr.ofJson? parts
      return .convert .lower a
    | .str, .pad => do
      let _ ← parts.fields? ["value", "width"]
      let a ← Expr.fieldOfJson? "value" parts
      let b ← Expr.fieldOfJson? "width" parts
      return .pad a b
    | .str, .episodeRanges => do
      let _ ← parts.fields? ["width"]
      let a ← Expr.fieldOfJson? "width" parts
      return .episodes a
    | .num, .len => do
      let a ← Expr.ofJson? parts
      return .len a
    | .coll, .has => do
      let _ ← parts.fields? ["source", "filters"]
      let a ← Expr.fieldOfJson? "source" parts
      let filters ← Filter.fieldOfJson? "filters" parts
      return .has a filters
    | _, _ => none
  | _ => none

def Expr.listOfJson? : List Json → Option (List Expr)
  | [] => some []
  | json :: jsons => do
    let a ← Expr.ofJson? json
    let exprs ← Expr.listOfJson? jsons
    return a :: exprs

def Expr.arrayOfJson? : Json → Option (List Expr)
  | .array items => Expr.listOfJson? items
  | _ => none

def Expr.pairOfJson? : Json → Option (Expr × Expr)
  | .array [a, b] => do
    let a ← Expr.ofJson? a
    let b ← Expr.ofJson? b
    return (a, b)
  | _ => none

/-- The expression that is the first of the members with the name. -/
def Expr.memberOfJson? (name : String) : List (String × Json) → Option Expr
  | [] => none
  | (other, json) :: members =>
    if other = name then Expr.ofJson? json else Expr.memberOfJson? name members

def Expr.fieldOfJson? (name : String) : Json → Option Expr
  | .object members => Expr.memberOfJson? name members
  | _ => none

def Filter.ofJson? : Json → Option Filter
  | .object [(form, parts)] => do
    match ← Tag.ofName? form with
    | .language => (Language.ofJson? parts).map .language
    | .titleKind => (TitleKind.ofJson? parts).map .titleKind
    | .text => do
      let a ← Expr.ofJson? parts
      return .text a
    | _ => none
  | _ => none

def Filter.listOfJson? : List Json → Option (List Filter)
  | [] => some []
  | json :: jsons => do
    let filter ← Filter.ofJson? json
    let filters ← Filter.listOfJson? jsons
    return filter :: filters

def Filter.arrayOfJson? : Json → Option (List Filter)
  | .array items => Filter.listOfJson? items
  | _ => none

/-- The filters that are the first of the members with the name. -/
def Filter.memberOfJson? (name : String) : List (String × Json) → Option (List Filter)
  | [] => none
  | (other, json) :: members =>
    if other = name then Filter.arrayOfJson? json else Filter.memberOfJson? name members

def Filter.fieldOfJson? (name : String) : Json → Option (List Filter)
  | .object members => Filter.memberOfJson? name members
  | _ => none

end

mutual

def Statement.ofJson? : Json → Option Statement
  | .text form => do
    match ← Tag.ofName? form with
    | .skip => return .skip
    | _ => none
  | .object [(form, parts)] => do
    match ← Tag.ofName? form with
    | .conditional => do
      let record ← parts.fields? ["arms", "otherwise"]
      if record.lacks "otherwise" then
        let branches ← Branches.fieldOfJson? .done "arms" parts
        return .choose branches
      else
        let body ← Statement.fieldOfJson? "otherwise" parts
        let branches ← Branches.fieldOfJson? (.otherwise body) "arms" parts
        return .choose branches
    | .set => do
      let record ← parts.fields? ["target", "parts"]
      let target ← record.field "target" Target.ofJson?
      let parts ← record.field "parts" Expr.arrayOfJson?
      return .set target parts
    | .add => do
      let record ← parts.fields? ["target", "parts"]
      let target ← record.field "target" Target.ofJson?
      let parts ← record.field "parts" Expr.arrayOfJson?
      return .add target parts
    | .replace => do
      let record ← parts.fields? ["target", "from", "to"]
      let target ← record.field "target" Target.ofJson?
      let pattern ← record.field "from" Expr.ofJson?
      let image ← record.field "to" Expr.ofJson?
      return .replace target pattern image
    | .skip => if parts.isNull then return .skip else none
    | .cancel => do
      let parts ← Expr.arrayOfJson? parts
      return .cancel parts
    | _ => none
  | _ => none

def Statement.listOfJson? : List Json → Option (List Statement)
  | [] => some []
  | json :: jsons => do
    let statement ← Statement.ofJson? json
    let statements ← Statement.listOfJson? jsons
    return statement :: statements

def Statement.arrayOfJson? : Json → Option (List Statement)
  | .array items => Statement.listOfJson? items
  | _ => none

/-- The statements that are the first of the members with the name. -/
def Statement.memberOfJson? (name : String) : List (String × Json) → Option (List Statement)
  | [] => none
  | (other, json) :: members =>
    if other = name then Statement.arrayOfJson? json else Statement.memberOfJson? name members

def Statement.fieldOfJson? (name : String) : Json → Option (List Statement)
  | .object members => Statement.memberOfJson? name members
  | _ => none

/-- The branches with a condition, before the `last` ones. -/
def Branches.listOfJson? (last : Branches) : List Json → Option Branches
  | [] => some last
  | arm :: arms => do
    let record ← arm.fields? ["condition", "body"]
    let condition ← record.field "condition" Expr.ofJson?
    let body ← Statement.fieldOfJson? "body" arm
    let rest ← Branches.listOfJson? last arms
    return .branch condition body rest

def Branches.arrayOfJson? (last : Branches) : Json → Option Branches
  | .array arms => Branches.listOfJson? last arms
  | _ => none

/-- The branches that are the first of the members with the name, before the `last` ones. -/
def Branches.memberOfJson? (last : Branches) (name : String) :
    List (String × Json) → Option Branches
  | [] => none
  | (other, json) :: members =>
    if other = name then Branches.arrayOfJson? last json
    else Branches.memberOfJson? last name members

def Branches.fieldOfJson? (last : Branches) (name : String) : Json → Option Branches
  | .object members => Branches.memberOfJson? last name members
  | _ => none

end

def Program.ofJson? (json : Json) : Option Program := do
  let record ← json.fields? ["statements"]
  let statements ← record.field "statements" Statement.arrayOfJson?
  return ⟨statements⟩

end MediaNaming
