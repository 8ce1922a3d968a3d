import MediaNaming.Script.Lexer
import MediaNaming.Script.Syntax

/-!
# From tokens to programs

The grammar of scripts, read from left to right without going back. From the loosest to the
tightest, operators are: or, and, not, the comparisons, plus, has. Every reader takes at least one
token, and each level of the grammar asks a tighter one for the same tokens, so reading ends.
-/

namespace MediaNaming.Parser

/-! ## Words -/

/-- The words with a place of their own in the grammar. -/
def reserved : List String := [
  "if", "else", "and", "or", "not", "has", "set", "add", "replace", "skip", "cancel", "filename",
  "destination", "subfolder"]

/-- The filters that are a word. -/
def keywordFilter? (name : String) : Option Filter :=
  match Language.ofName? name with
  | some language => some (.language language)
  | none => (TitleKind.ofName? name).map .titleKind

/-- The functions that a script can call. -/
inductive Function where
  | first
  | substr
  | trunc
  | convert (conversion : Conversion)
  | len
  | pad
  | episodes
deriving DecidableEq

namespace Function

def all : List Function := [
  first, substr, trunc, convert .trim, convert .upper, convert .lower, len, pad, episodes]

def name : Function → String
  | first => "first"
  | substr => "substr"
  | trunc => "trunc"
  | convert conversion => conversion.name
  | len => "len"
  | pad => "pad"
  | episodes => "episodes"

def ofName? (name : String) : Option Function :=
  all.find? fun function => function.name == name

/-- The least number of arguments and the greatest. -/
def arity : Function → Nat × Nat
  | first => (1, 1)
  | substr => (2, 3)
  | trunc => (2, 2)
  | convert _ => (1, 1)
  | len => (1, 1)
  | pad => (2, 2)
  | episodes => (0, 1)

/-- The function's call, if the number of arguments is right. -/
def call? : Function → List Expr → Option Expr
  | first, [a] => some (.first a)
  | substr, [a, b] => some (.rest a b)
  | substr, [a, b, c] => some (.substr a b c)
  | trunc, [a, b] => some (.trunc a b)
  | convert conversion, [a] => some (.convert conversion a)
  | len, [a] => some (.len a)
  | pad, [a, b] => some (.pad a b)
  | episodes, [] => some (.episodes (.number 0))
  | episodes, [a] => some (.episodes a)
  | _, _ => none

end Function

/-! ## Tokens -/

/-- Takes the first token if `f` makes something of it. -/
def take? {α : Type} (f : TokenKind → Option α) (tokens : List Token) : Option (Taken α tokens) :=
  match tokens with
  | token :: rest => (f token.kind).map fun value => ⟨value, rest, by simp⟩
  | [] => none

/-- Takes the first token if it is one of `kinds`. -/
def takeOf? (kinds : List TokenKind) (tokens : List Token) : Option (Taken Unit tokens) :=
  take? (fun kind => if kinds.contains kind then some () else none) tokens

/-- The spellings of an or. -/
def orKinds : List TokenKind := [.word "or", .punctuation .or]

/-- The spellings of an and. -/
def andKinds : List TokenKind := [.word "and", .punctuation .and]

/-- The spellings of a not. -/
def notKinds : List TokenKind := [.word "not", .punctuation .bang]

def comparison? : TokenKind → Option Comparison
  | .punctuation .equal => some .equal
  | .punctuation .notEqual => some .notEqual
  | .punctuation .less => some .less
  | .punctuation .lessEqual => some .lessEqual
  | .punctuation .greater => some .greater
  | .punctuation .greaterEqual => some .greaterEqual
  | _ => none

def keyword? : TokenKind → Option Filter
  | .word name => keywordFilter? name
  | _ => none

/-- Whether an operand of a statement can start with the token. -/
def TokenKind.startsOperand : TokenKind → Bool
  | .text _ => true
  | .number _ => true
  | .punctuation mark => mark == .openParen
  | .word name => !reserved.contains name

def startsOperand (tokens : List Token) : Bool :=
  match tokens with
  | token :: _ => TokenKind.startsOperand token.kind
  | [] => false

/-- Further filters of a chain: keywords behind an `and`. What else stands there is left. -/
def filterChain : List Token → List Filter × List Token
  | and :: word :: tokens =>
    match keyword? word.kind with
    | some filter =>
      if andKinds.contains and.kind then
        let (filters, rest) := filterChain tokens
        (filter :: filters, rest)
      else
        ([], and :: word :: tokens)
    | none => ([], and :: word :: tokens)
  | tokens => ([], tokens)

theorem length_filterChain (tokens : List Token) :
    (filterChain tokens).2.length ≤ tokens.length := by
  fun_induction filterChain tokens with grind

/-! ## Errors -/

def foundIn (tokens : List Token) : Option TokenKind :=
  tokens.head?.map Token.kind

/-- The place of the first token, or the end of the script. -/
def placeOf (stop : Position) (tokens : List Token) : Position :=
  (tokens.head?.map Token.position).getD stop

variable (stop : Position)

/-- An error at the first token. -/
def failAt {α : Type} (tokens : List Token) (cause : Option TokenKind → SyntaxCause) :
    Except SyntaxError α :=
  .error ⟨cause (foundIn tokens), placeOf stop tokens⟩

/-- The tokens behind a mark that must come first. -/
def expectMark (mark : Punctuation) (delimiter : Delimiter) (tokens : List Token) :
    Except SyntaxError (Taken Unit tokens) :=
  match takeOf? [.punctuation mark] tokens with
  | some taken => .ok taken
  | none => failAt stop tokens (.expectedDelimiter delimiter)

/-! ## Expressions -/

/-- The expression that a word alone is. -/
def wordValue (name : String) (position : Position) : Except SyntaxError Expr :=
  if name = "true" then .ok (.flag true)
  else if name = "false" then .ok (.flag false)
  else
    match Label.ofName? name with
    | some label => .ok (.label label)
    | none =>
      if (keywordFilter? name).isSome then .error ⟨.misplacedFilter name, position⟩
      else if reserved.contains name then .error ⟨.expectedValue (some (.word name)), position⟩
      else .error ⟨.unknownLabel name, position⟩

/-- The call of a function whose name stands at `position`. -/
def callValue (function : Function) (position : Position) (arguments : List Expr) :
    Except SyntaxError Expr :=
  match function.call? arguments with
  | some expr => .ok expr
  | none =>
    let (least, most) := function.arity
    .error ⟨.wrongArity function.name least most arguments.length, position⟩

mutual

def disjunction (tokens : List Token) : Except SyntaxError (Taken Expr tokens) := do
  let left ← conjunction tokens
  have := left.shorter
  moreDisjuncts tokens left.value left.rest left.shorter
termination_by 16 * tokens.length + 7

/-- What follows the left operand of an or. -/
def moreDisjuncts (tokens : List Token) (left : Expr) (rest : List Token)
    (h : rest.length < tokens.length) : Except SyntaxError (Taken Expr tokens) :=
  match takeOf? orKinds rest with
  | some operator => do
    have := operator.shorter
    let right ← conjunction operator.rest
    have := right.shorter
    moreDisjuncts tokens (.or left right.value) right.rest (by omega)
  | none => .ok ⟨left, rest, h⟩
termination_by 16 * rest.length

def conjunction (tokens : List Token) : Except SyntaxError (Taken Expr tokens) := do
  let left ← negation tokens
  have := left.shorter
  moreConjuncts tokens left.value left.rest left.shorter
termination_by 16 * tokens.length + 6

/-- What follows the left operand of an and. -/
def moreConjuncts (tokens : List Token) (left : Expr) (rest : List Token)
    (h : rest.length < tokens.length) : Except SyntaxError (Taken Expr tokens) :=
  match takeOf? andKinds rest with
  | some operator => do
    have := operator.shorter
    let right ← negation operator.rest
    have := right.shorter
    moreConjuncts tokens (.and left right.value) right.rest (by omega)
  | none => .ok ⟨left, rest, h⟩
termination_by 16 * rest.length

def negation (tokens : List Token) : Except SyntaxError (Taken Expr tokens) :=
  match takeOf? notKinds tokens with
  | some operator => do
    have := operator.shorter
    let operand ← negation operator.rest
    return (operand.map .not).widen (Nat.le_of_lt operator.shorter)
  | none => relation tokens
termination_by 16 * tokens.length + 5

/-- A comparison, or one sum alone. -/
def relation (tokens : List Token) : Except SyntaxError (Taken Expr tokens) := do
  let left ← sum tokens
  have := left.shorter
  match take? comparison? left.rest with
  | some operator =>
    have := operator.shorter
    let right ← sum operator.rest
    return (right.map (.compare operator.value left.value)).widen (by omega)
  | none => return left
termination_by 16 * tokens.length + 4

/-- The parts between plus signs; one part alone stands for itself. -/
def sum (tokens : List Token) : Except SyntaxError (Taken Expr tokens) := do
  let part ← selection tokens
  have := part.shorter
  let parts ← moreParts tokens part.rest part.shorter
  return parts.map fun
    | [] => part.value
    | parts => .concat (part.value :: parts)
termination_by 16 * tokens.length + 3

/-- The further parts of a sum. -/
def moreParts (tokens rest : List Token) (h : rest.length < tokens.length) :
    Except SyntaxError (Taken (List Expr) tokens) :=
  match takeOf? [.punctuation .plus] rest with
  | some plus => do
    have := plus.shorter
    let part ← selection plus.rest
    have := part.shorter
    let parts ← moreParts tokens part.rest (by omega)
    return parts.map (part.value :: ·)
  | none => .ok ⟨[], rest, h⟩
termination_by 16 * rest.length

/-- A value with any number of `has` behind it. -/
def selection (tokens : List Token) : Except SyntaxError (Taken Expr tokens) := do
  let source ← primary tokens
  have := source.shorter
  moreFilters tokens source.value source.rest source.shorter
termination_by 16 * tokens.length + 2

/-- What follows the source of a `has`. -/
def moreFilters (tokens : List Token) (source : Expr) (rest : List Token)
    (h : rest.length < tokens.length) : Except SyntaxError (Taken Expr tokens) :=
  match takeOf? [.word "has"] rest with
  | some has => do
    have := has.shorter
    let filter ← filter has.rest
    have := filter.shorter
    have := length_filterChain filter.rest
    moreFilters tokens (.has source (filter.value :: (filterChain filter.rest).1))
      (filterChain filter.rest).2 (by omega)
  | none => .ok ⟨source, rest, h⟩
termination_by 16 * rest.length

/-- A keyword, or any value that stands for a text. -/
def filter (tokens : List Token) : Except SyntaxError (Taken Filter tokens) :=
  match take? keyword? tokens with
  | some filter => .ok filter
  | none => do
    let wanted ← primary tokens
    return wanted.map .text
termination_by 16 * tokens.length + 2

/-- A literal, a label, a call, or an expression in parentheses. -/
def primary (tokens : List Token) : Except SyntaxError (Taken Expr tokens) :=
  match tokens with
  | ⟨.text value, _⟩ :: behind => .ok ⟨.text value, behind, by simp⟩
  | ⟨.number value, _⟩ :: behind => .ok ⟨.number value, behind, by simp⟩
  | ⟨.punctuation .openParen, _⟩ :: behind => do
    let inner ← disjunction behind
    let closed ← expectMark stop .closeParen .groupEnd inner.rest
    return ⟨inner.value, closed.rest, by
      have h₁ := inner.shorter
      have h₂ := closed.shorter
      simp only [List.length_cons]
      omega⟩
  | ⟨.word name, position⟩ :: behind =>
    match Function.ofName? name, takeOf? [.punctuation .openParen] behind with
    | some function, some opened => do
      have := opened.shorter
      let arguments ← argumentList opened.rest
      let expr ← callValue function position arguments.value
      return ⟨expr, arguments.rest, by
        have := arguments.shorter
        simp only [List.length_cons]
        omega⟩
    | _, _ => do
      let expr ← wordValue name position
      return ⟨expr, behind, by simp⟩
  | tokens => failAt stop tokens .expectedValue
termination_by 16 * tokens.length + 1

/-- The arguments of a call, to the closing parenthesis. -/
def argumentList (tokens : List Token) : Except SyntaxError (Taken (List Expr) tokens) :=
  match takeOf? [.punctuation .closeParen] tokens with
  | some closed => .ok (closed.map fun _ => [])
  | none => someArguments tokens
termination_by 16 * tokens.length + 9

/-- One argument or more, to the closing parenthesis. -/
def someArguments (tokens : List Token) : Except SyntaxError (Taken (List Expr) tokens) := do
  let argument ← disjunction tokens
  have := argument.shorter
  match takeOf? [.punctuation .closeParen] argument.rest with
  | some closed =>
    return (closed.map fun _ => [argument.value]).widen (Nat.le_of_lt argument.shorter)
  | none =>
    match takeOf? [.punctuation .comma] argument.rest with
    | some comma =>
      have := comma.shorter
      let arguments ← someArguments comma.rest
      return (arguments.map (argument.value :: ·)).widen (by omega)
    | none => failAt stop argument.rest (.expectedDelimiter .argumentEnd)
termination_by 16 * tokens.length + 8

end

/-! ## Operands -/

def operand (tokens : List Token) : Except SyntaxError (Taken Expr tokens) :=
  if startsOperand tokens then sum stop tokens else failAt stop tokens .expectedValue

/-- The operands as long as there are more. -/
def moreOperands (tokens rest : List Token) (h : rest.length < tokens.length) :
    Except SyntaxError (Taken (List Expr) tokens) :=
  if startsOperand rest then do
    let part ← sum stop rest
    have := part.shorter
    let parts ← moreOperands tokens part.rest (by omega)
    return parts.map (part.value :: ·)
  else
    .ok ⟨[], rest, h⟩
termination_by rest.length

/-- One operand or more. -/
def operands (tokens : List Token) : Except SyntaxError (Taken (List Expr) tokens) := do
  let part ← operand stop tokens
  let parts ← moreOperands stop tokens part.rest part.shorter
  return parts.map (part.value :: ·)

/-! ## Statements -/

inductive Verb where
  | set
  | add
  | replace

def verb? : TokenKind → Option Verb
  | .word "set" => some .set
  | .word "add" => some .add
  | .word "replace" => some .replace
  | _ => none

def target? : TokenKind → Option Target
  | .word "filename" => some .filename
  | .word "destination" => some .destination
  | .word "subfolder" => some .subfolder
  | _ => none

/-- The name of a target in scripts; nothing for the one that is not named. -/
def targetName : Target → String
  | .filename => "filename"
  | .destination => "destination"
  | .subfolder => "subfolder"
  | .unnamed => ""

/-- What a verb does to the target, with the operands that follow it. -/
def action (target : Target) (verb : Verb) (tokens : List Token) :
    Except SyntaxError (Taken Statement tokens) :=
  match verb with
  | .set => do
    let parts ← operands stop tokens
    return parts.map (.set target)
  | .add => do
    let parts ← operands stop tokens
    return parts.map (.add target)
  | .replace => do
    let pattern ← operand stop tokens
    let image ← operand stop pattern.rest
    return (image.map (.replace target pattern.value)).widen (Nat.le_of_lt pattern.shorter)

/-- What follows the name of a target: a verb, or operands that are added. -/
def targeted (target : Target) (tokens : List Token) :
    Except SyntaxError (Taken Statement tokens) :=
  match take? verb? tokens with
  | some verb => do
    let statement ← action stop target verb.value verb.rest
    return statement.widen (Nat.le_of_lt verb.shorter)
  | none =>
    if startsOperand tokens then do
      let parts ← operands stop tokens
      return parts.map (.add target)
    else
      failAt stop tokens (.expectedAction (targetName target))

/-- A statement other than a choice. -/
def simpleStatement (tokens : List Token) : Except SyntaxError (Taken Statement tokens) :=
  if startsOperand tokens then do
    let parts ← operands stop tokens
    return parts.map (.add .unnamed)
  else
    match take? target? tokens, take? verb? tokens with
    | some target, _ => do
      let statement ← targeted stop target.value target.rest
      return statement.widen (Nat.le_of_lt target.shorter)
    | none, some verb => do
      let statement ← action stop .unnamed verb.value verb.rest
      return statement.widen (Nat.le_of_lt verb.shorter)
    | none, none =>
      match takeOf? [.word "skip"] tokens, takeOf? [.word "cancel"] tokens with
      | some skip, _ => .ok (skip.map fun _ => .skip)
      | none, some cancel => do
        let parts ← moreOperands stop tokens cancel.rest cancel.shorter
        return parts.map .cancel
      | none, none => failAt stop tokens .expectedStatement

def skipSemicolons (tokens : List Token) : List Token :=
  tokens.dropWhile fun token => token.kind == .punctuation .semicolon

theorem length_skipSemicolons (tokens : List Token) :
    (skipSemicolons tokens).length ≤ tokens.length :=
  (List.dropWhile_suffix _).length_le

/-- A statement ends with any number of semicolons. -/
def ended {tokens : List Token} (statement : Taken Statement tokens) : Taken Statement tokens :=
  ⟨statement.value, skipSemicolons statement.rest,
    Nat.lt_of_le_of_lt (length_skipSemicolons _) statement.shorter⟩

mutual

def statement (tokens : List Token) : Except SyntaxError (Taken Statement tokens) :=
  match takeOf? [.word "if"] tokens with
  | some word => do
    have := word.shorter
    let branches ← branches word.rest
    return (branches.map .choose).widen (Nat.le_of_lt word.shorter)
  | none => do
    let statement ← simpleStatement stop tokens
    return ended statement
termination_by 4 * tokens.length

/-- A condition in parentheses, its body, and the branches behind it. -/
def branches (tokens : List Token) : Except SyntaxError (Taken Branches tokens) := do
  let opened ← expectMark stop .openParen .conditionStart tokens
  let condition ← disjunction stop opened.rest
  let closed ← expectMark stop .closeParen .conditionEnd condition.rest
  have := opened.shorter
  have := condition.shorter
  have := closed.shorter
  let body ← body closed.rest
  have := body.shorter
  let rest ← otherBranches tokens body.rest (by omega)
  return rest.map (.branch condition.value body.value)
termination_by 4 * tokens.length

/-- The branches behind an `else`, if there is one. -/
def otherBranches (tokens rest : List Token) (h : rest.length < tokens.length) :
    Except SyntaxError (Taken Branches tokens) :=
  match takeOf? [.word "else"] rest with
  | some word =>
    have := word.shorter
    match takeOf? [.word "if"] word.rest with
    | some word => do
      have := word.shorter
      let more ← branches word.rest
      return more.widen (by omega)
    | none => do
      let last ← body word.rest
      return (last.map .otherwise).widen (by omega)
  | none => .ok ⟨.done, rest, h⟩
termination_by 4 * rest.length

/-- A block in braces, or one statement. -/
def body (tokens : List Token) : Except SyntaxError (Taken (List Statement) tokens) :=
  match takeOf? [.punctuation .openBrace] tokens with
  | some opened => do
    have := opened.shorter
    let statements ← block opened.rest
    return statements.widen (Nat.le_of_lt opened.shorter)
  | none => do
    let statement ← statement tokens
    return statement.map ([·])
termination_by 4 * tokens.length + 1

/-- Statements to the closing brace. -/
def block (tokens : List Token) : Except SyntaxError (Taken (List Statement) tokens) :=
  have := length_skipSemicolons tokens
  match takeOf? [.punctuation .closeBrace] (skipSemicolons tokens) with
  | some closed => .ok ((closed.map fun _ => []).widen (length_skipSemicolons tokens))
  | none =>
    if (skipSemicolons tokens).isEmpty then
      failAt stop [] fun _ => .unterminatedBlock
    else do
      let first ← statement (skipSemicolons tokens)
      have := first.shorter
      let more ← block first.rest
      return (more.map (first.value :: ·)).widen (by omega)
termination_by 4 * tokens.length + 1

end

/-- Statements to the end of the script. -/
def statements (tokens : List Token) : Except SyntaxError (List Statement) :=
  have := length_skipSemicolons tokens
  if (skipSemicolons tokens).isEmpty then
    .ok []
  else do
    let first ← statement stop (skipSemicolons tokens)
    have := first.shorter
    let more ← statements first.rest
    return first.value :: more
termination_by tokens.length

end Parser

/-- Reads a script. -/
def Program.parse (script : String) : Except SyntaxError Program := do
  let list ← Lexer.tokenize script
  let statements ← Parser.statements list.stop list.tokens
  return ⟨statements⟩

end MediaNaming
