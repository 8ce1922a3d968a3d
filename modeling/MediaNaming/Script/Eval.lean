import MediaNaming.Media.EpisodeRanges
import MediaNaming.Placement.Marker
import MediaNaming.Script.Metadata
import MediaNaming.Script.Selection
import MediaNaming.Script.Syntax
import MediaNaming.Text.Slice

/-!
# Evaluation

The value of an expression for a request, and the text of an expression where it becomes part of a
path.
-/

namespace MediaNaming

/-! ## Errors -/

/-- Why an expression has no value. The texts describe expressions. -/
inductive EvalError where
  /-- A value that cannot be taken for one of the category that is expected. -/
  | typeMismatch (construct : String) (expected found : Category)
  /-- A comparison of values of which one has neither a text nor a number. -/
  | incomparable (construct : String) (left right : Category)
  /-- A filter for a collection whose elements have nothing that it looks at. -/
  | invalidFilter (construct filter elementKind : String)
  /-- A width above the greatest one that a function takes. -/
  | widthTooLarge (function : String) (width : Int64)
deriving DecidableEq

/-- The greatest width that numbers are padded to. -/
def maxWidth : Int64 := 32

def EvalError.message : EvalError → String
  | typeMismatch construct expected found =>
    "cannot use " ++ found.name ++ " `" ++ construct ++ "` as a " ++ expected.name
  | incomparable construct left right =>
    "cannot compare " ++ left.name ++ " with " ++ right.name ++ " in `" ++ construct ++ "`"
  | invalidFilter construct filter elementKind =>
    "filter " ++ filter ++ " does not apply to " ++ elementKind ++ " in `" ++ construct ++ "`"
  | widthTooLarge function width =>
    "invalid argument to " ++ function ++ "(): width " ++ Text.int width.toInt ++ " exceeds " ++
      Text.int maxWidth.toInt

/-! ## Values in position -/

/-- The value of `expr` as a text. -/
def Value.asText (expr : Expr) (value : Value) : Except EvalError String :=
  match value.toText? with
  | some words => .ok words
  | none => .error (.typeMismatch expr.description .text value.category)

/-- The value of `expr` as a number. -/
def Value.asNumber (expr : Expr) (value : Value) : Except EvalError Int64 :=
  match value.toNumber? with
  | some n => .ok n
  | none => .error (.typeMismatch expr.description .number value.category)

/-- The value of `expr` as a collection, which no other value can be taken for. -/
def Value.asCollection (expr : Expr) : Value → Except EvalError Collection
  | .collection items => .ok items
  | value => .error (.typeMismatch expr.description .collection value.category)

/-- A width as a count of characters; a negative one counts as zero. -/
def checkWidth (function : String) (width : Int64) : Except EvalError Nat :=
  if maxWidth < width then .error (.widthTooLarge function width) else .ok (Text.countOf width)

/-- The value of `expr` behind zeros that fill `width`; the sign of a number stays in front. -/
def Value.padded (expr : Expr) (width : Nat) : Value → Except EvalError String
  | .number n => .ok (String.ofList (Text.paddedInt width n.toInt))
  | value => do return String.ofList (Text.zeroFill width (← value.asText expr).toList)

/-! ## Comparisons -/

/-- Whether two values are equal, as numbers if both are, else as texts. -/
def Value.same? : Value → Value → Option Bool
  | .number m, .number n => some (m == n)
  | left, right => do return (← left.toText?) == (← right.toText?)

/-- Whether the numbers of two values are in a relation. -/
def Value.related? (relation : Int64 → Int64 → Bool) (left right : Value) : Option Bool := do
  return relation (← left.toNumber?) (← right.toNumber?)

/-- Whether a comparison of two values holds; flags do not compare. -/
def Comparison.holds? (left right : Value) : Comparison → Option Bool
  | equal => left.same? right
  | notEqual => (left.same? right).map (! ·)
  | less => left.related? (· < ·) right
  | lessEqual => left.related? (· ≤ ·) right
  | greater => left.related? (· > ·) right
  | greaterEqual => left.related? (· ≥ ·) right

/-- Whether a comparison of the values of two expressions holds. -/
def Comparison.check (comparison : Comparison) (left right : Expr) (a b : Value) :
    Except EvalError Bool :=
  match comparison.holds? a b with
  | some flag => .ok flag
  | none =>
    .error (.incomparable (Expr.compare comparison left right).description a.category b.category)

/-! ## Conversions -/

def Conversion.apply (value : String) : Conversion → String
  | trim => Text.trim value
  | upper => Text.upper value
  | lower => Text.lower value

/-! ## Filters -/

/-- What a filter that wants no text keeps of the value of `source`. -/
def Collection.select (source : Expr) (filter : Filter) (kept : Option Collection)
    (items : Collection) : Except EvalError Collection :=
  match kept with
  | some kept => .ok kept
  | none => .error (.invalidFilter source.description filter.description items.elementKind)

/-! ## Expressions -/

/-- The text of all the ranges of the file's episodes that belong to the first anime. -/
def Request.episodesText (request : Request) (width : Nat) : String :=
  match request.primaryAnime? with
  | some anime => episodeRanges request.episodes anime.id width
  | none => ""

mutual

def Expr.eval (request : Request) : Expr → Except EvalError Value
  | .flag value => .ok (.flag value)
  | .text value => .ok (.text value)
  | .number value => .ok (.number value)
  | .label l => .ok (request.value l)
  | .not operand => do
    let value ← operand.eval request
    return .flag !value.truthy
  | .and left right => do
    let value ← left.eval request
    if value.truthy then
      let value ← right.eval request
      return .flag value.truthy
    else
      return .flag false
  | .or left right => do
    let value ← left.eval request
    if value.truthy then
      return .flag true
    else
      let value ← right.eval request
      return .flag value.truthy
  | .compare comparison left right => do
    let a ← left.eval request
    let b ← right.eval request
    return .flag (← comparison.check left right a b)
  | .concat parts => do
    return .text (← Expr.joinedTexts request parts)
  | .first collection => do
    let items ← (← collection.eval request).asCollection collection
    return .text items.firstText
  | .rest text start => do
    let value ← (← text.eval request).asText text
    let begin ← (← start.eval request).asNumber start
    return .text (Text.slice value begin none)
  | .substr text start len => do
    let value ← (← text.eval request).asText text
    let begin ← (← start.eval request).asNumber start
    let count ← (← len.eval request).asNumber len
    return .text (Text.slice value begin (some count))
  | .trunc text len => do
    let value ← (← text.eval request).asText text
    let count ← (← len.eval request).asNumber len
    return .text (Text.truncate value count)
  | .convert conversion text => do
    let value ← (← text.eval request).asText text
    return .text (conversion.apply value)
  | .pad value width => do
    let columns ← checkWidth "pad" (← (← width.eval request).asNumber width)
    return .text (← (← value.eval request).padded value columns)
  | .episodes width => do
    let columns ← checkWidth "episodes" (← (← width.eval request).asNumber width)
    return .text (request.episodesText columns)
  | .len operand => do
    return .number (← (← operand.eval request).asNumber operand)
  | .has source filters => do
    let items ← (← source.eval request).asCollection source
    return .collection (← Filter.applyAll request source items filters)

/-- The texts of the expressions, one behind the other. -/
def Expr.joinedTexts (request : Request) : List Expr → Except EvalError String
  | [] => .ok ""
  | part :: parts => do
    let text ← (← part.eval request).asText part
    return text ++ (← Expr.joinedTexts request parts)

/-- What a filter keeps of the value of `source`. -/
def Filter.apply (request : Request) (source : Expr) (items : Collection) :
    Filter → Except EvalError Collection
  | .language l => items.select source (.language l) (items.inLanguage? l)
  | .titleKind kind => items.select source (.titleKind kind) (items.ofTitleKind? kind)
  | .text wanted => do
    return items.matchingText (← (← wanted.eval request).asText wanted)

/-- What the filters keep one after the other; once nothing is left, the others are not asked. -/
def Filter.applyAll (request : Request) (source : Expr) (items : Collection) :
    List Filter → Except EvalError Collection
  | [] => .ok items
  | filter :: filters =>
    if items.isEmpty then
      .ok items
    else do
      let kept ← filter.apply request source items
      Filter.applyAll request source kept filters

end

namespace Expr

def evalTruth (request : Request) (expr : Expr) : Except EvalError Bool := do
  return (← expr.eval request).truthy

def evalText (request : Request) (expr : Expr) : Except EvalError String := do
  (← expr.eval request).asText expr

def evalNumber (request : Request) (expr : Expr) : Except EvalError Int64 := do
  (← expr.eval request).asNumber expr

def evalCollection (request : Request) (expr : Expr) : Except EvalError Collection := do
  (← expr.eval request).asCollection expr

/-! ## Parts of paths -/

mutual

/-- The text of an expression as part of a path: only what it holds literally brings markers in. -/
def evalPath (request : Request) : Expr → Except EvalError String
  | .text value => .ok (Marker.markLiteral value)
  | .concat parts => joinedPaths request parts
  | expr => do return Marker.strip (← expr.evalText request)

def joinedPaths (request : Request) : List Expr → Except EvalError String
  | [] => .ok ""
  | part :: parts => do
    let text ← evalPath request part
    return text ++ (← joinedPaths request parts)

end

end Expr

end MediaNaming
