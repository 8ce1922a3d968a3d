import MediaNaming.Media.Title
import MediaNaming.Script.Label

/-!
# Programs

The syntax of scripts: expressions, each of one category of values, and the statements that use
them.
-/

namespace MediaNaming

/-! ## Operators -/

inductive Comparison where
  | equal
  | notEqual
  | less
  | lessEqual
  | greater
  | greaterEqual
deriving DecidableEq

def Comparison.symbol : Comparison → String
  | equal => "=="
  | notEqual => "!="
  | less => "<"
  | lessEqual => "<="
  | greater => ">"
  | greaterEqual => ">="

/-- The functions from texts to texts. -/
inductive Conversion where
  | trim
  | upper
  | lower
deriving DecidableEq

def Conversion.name : Conversion → String
  | trim => "trim"
  | upper => "upper"
  | lower => "lower"

/-! ## Expressions -/

mutual

inductive Expr where
  | flag (value : Bool)
  | text (value : String)
  | number (value : Int64)
  | label (label : Label)
  | not (operand : Expr)
  | and (left right : Expr)
  | or (left right : Expr)
  | compare (comparison : Comparison) (left right : Expr)
  | concat (parts : List Expr)
  | first (collection : Expr)
  /-- The rest of a text from the character at `start` on. -/
  | rest (text start : Expr)
  /-- As much of that rest as `len` characters. -/
  | substr (text start len : Expr)
  | trunc (text len : Expr)
  | convert (conversion : Conversion) (text : Expr)
  | pad (value width : Expr)
  /-- The ranges of the file's episodes. -/
  | episodes (width : Expr)
  | len (operand : Expr)
  | has (source : Expr) (filters : List Filter)

/-- What the elements of a collection must match. -/
inductive Filter where
  | language (language : Language)
  | titleKind (kind : TitleKind)
  | text (wanted : Expr)

end

namespace Expr

/-- The category of the values of an expression. -/
def category : Expr → Category
  | flag _ => .flag
  | text _ => .text
  | number _ => .number
  | label l => l.category
  | not _ => .flag
  | and _ _ => .flag
  | or _ _ => .flag
  | compare _ _ _ => .flag
  | concat _ => .text
  | first _ => .text
  | rest _ _ => .text
  | substr _ _ _ => .text
  | trunc _ _ => .text
  | convert _ _ => .text
  | pad _ _ => .text
  | episodes _ => .text
  | len _ => .number
  | has _ _ => .collection

mutual

/-- The expression in short, as messages show it. -/
def description : Expr → String
  | flag true => "true"
  | flag false => "false"
  | text value => "'" ++ value ++ "'"
  | number value => Text.int value.toInt
  | label l => l.name
  | not operand => "not " ++ operand.description
  | and left right => left.description ++ " and " ++ right.description
  | or left right => left.description ++ " or " ++ right.description
  | compare comparison left right =>
    left.description ++ " " ++ comparison.symbol ++ " " ++ right.description
  | concat parts => " + ".intercalate (descriptions parts)
  | first _ => "first(..)"
  | rest _ _ => "substr(..)"
  | substr _ _ _ => "substr(..)"
  | trunc _ _ => "trunc(..)"
  | convert conversion _ => conversion.name ++ "(..)"
  | pad _ _ => "pad(..)"
  | episodes _ => "episodes(..)"
  | len _ => "len(..)"
  | has source _ => source.description ++ " has .."

def descriptions : List Expr → List String
  | [] => []
  | part :: parts => part.description :: descriptions parts

end

end Expr

/-- The filter in short, as messages show it. -/
def Filter.description : Filter → String
  | language l => l.name
  | titleKind kind => kind.name
  | text wanted => wanted.description

/-! ## Statements -/

/-- The buffer that a statement writes to. -/
inductive Target where
  | filename
  | destination
  | subfolder
  /-- No buffer is named, which means the filename. -/
  | unnamed
deriving DecidableEq

/-- Whether a target says where the file goes, and not what it is called. -/
def Target.isPlacement : Target → Bool
  | destination => true
  | subfolder => true
  | filename => false
  | unnamed => false

mutual

inductive Statement where
  | choose (branches : Branches)
  | set (target : Target) (parts : List Expr)
  | add (target : Target) (parts : List Expr)
  | replace (target : Target) (pattern image : Expr)
  | skip
  | cancel (parts : List Expr)

/-- The conditions of a choice with their bodies, tried in order. -/
inductive Branches where
  | done
  | otherwise (body : List Statement)
  | branch (condition : Expr) (body : List Statement) (rest : Branches)

end

/-- The conditions of a choice, in the order in which they are tried. -/
def Branches.conditions : Branches → List Expr
  | done => []
  | otherwise _ => []
  | branch condition _ rest => condition :: rest.conditions

/-- The expressions of a statement; those of the statements within it do not count. -/
def Statement.operands : Statement → List Expr
  | choose branches => branches.conditions
  | set _ parts => parts
  | add _ parts => parts
  | replace _ pattern image => [pattern, image]
  | skip => []
  | cancel parts => parts

/-- A script that has been read. -/
structure Program where
  statements : List Statement

/-- The expressions of the statements that stand in no other one. -/
def Program.operands (program : Program) : List Expr :=
  program.statements.flatMap Statement.operands

end MediaNaming
