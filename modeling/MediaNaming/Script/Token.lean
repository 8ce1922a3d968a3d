import MediaNaming.Text.Decimal

/-!
# Tokens

Places in a script, the tokens that it is made of, and the ways in which a text fails to be a
script.
-/

namespace MediaNaming

/-! ## Positions -/

/-- A place in a text: its line and, in characters, its column, both from 1. -/
structure Position where
  line : Nat
  column : Nat
deriving DecidableEq

namespace Position

def start : Position := ⟨1, 1⟩

/-- The place behind the character `c`. -/
def after (position : Position) (c : Char) : Position :=
  if c = '\n' then ⟨position.line + 1, 1⟩ else ⟨position.line, position.column + 1⟩

/-- The place behind the characters. -/
def advance (position : Position) (cs : List Char) : Position :=
  cs.foldl after position

@[simp] theorem advance_nil (position : Position) : position.advance [] = position := rfl

@[simp] theorem advance_cons (position : Position) (c : Char) (cs : List Char) :
    position.advance (c :: cs) = (position.after c).advance cs := rfl

theorem advance_append (position : Position) (cs ds : List Char) :
    position.advance (cs ++ ds) = (position.advance cs).advance ds :=
  List.foldl_append

end Position

/-! ## Tokens -/

/-- The tokens that are spelt in one way only. -/
inductive Punctuation where
  | openParen
  | closeParen
  | openBrace
  | closeBrace
  | comma
  | semicolon
  | plus
  | equal
  | notEqual
  | less
  | lessEqual
  | greater
  | greaterEqual
  | bang
  | and
  | or
deriving DecidableEq

def Punctuation.spelling : Punctuation → String
  | openParen => "("
  | closeParen => ")"
  | openBrace => "\x7b"
  | closeBrace => "\x7d"
  | comma => ","
  | semicolon => ";"
  | plus => "+"
  | equal => "=="
  | notEqual => "!="
  | less => "<"
  | lessEqual => "<="
  | greater => ">"
  | greaterEqual => ">="
  | bang => "!"
  | and => "&&"
  | or => "||"

inductive TokenKind where
  | word (name : String)
  | text (value : String)
  | number (value : Int64)
  | punctuation (mark : Punctuation)
deriving DecidableEq

/-- A token as messages show it. -/
def TokenKind.description : TokenKind → String
  | word name => "'" ++ name ++ "'"
  | text value => "string '" ++ value ++ "'"
  | number value => "number " ++ Text.int value.toInt
  | punctuation mark => "'" ++ mark.spelling ++ "'"

/-- A token, or the end of the script, as messages show it. -/
def describeFound : Option TokenKind → String
  | some kind => kind.description
  | none => "end of script"

structure Token where
  kind : TokenKind
  position : Position
deriving DecidableEq

/-- The tokens of a script, and the place where it ends. -/
structure TokenList where
  tokens : List Token
  stop : Position
deriving DecidableEq

/-! ## Syntax errors -/

/-- The places where the grammar wants one token and no other. -/
inductive Delimiter where
  | conditionStart
  | conditionEnd
  | groupEnd
  | argumentEnd
deriving DecidableEq

def Delimiter.description : Delimiter → String
  | conditionStart => "'(' after 'if'"
  | conditionEnd => "')' after condition"
  | groupEnd => "')'"
  | argumentEnd => "',' or ')' in argument list"

/-- Why a text is no script. The token that was found is none at the end of the script. -/
inductive SyntaxCause where
  | unexpectedCharacter (c : Char)
  /-- Half of a mark that is only known doubled. -/
  | halfMark (mark : Punctuation)
  | unterminatedText
  | incompleteEscape
  | unterminatedComment
  | numberOutOfRange (spelling : String)
  | expectedStatement (found : Option TokenKind)
  | expectedAction (target : String) (found : Option TokenKind)
  | expectedValue (found : Option TokenKind)
  | expectedDelimiter (delimiter : Delimiter) (found : Option TokenKind)
  | unterminatedBlock
  | wrongArity (function : String) (least most found : Nat)
  | misplacedFilter (name : String)
  | unknownLabel (name : String)
deriving DecidableEq

def SyntaxCause.message : SyntaxCause → String
  | unexpectedCharacter c => "unexpected character '" ++ String.singleton c ++ "'"
  | halfMark mark => "expected '" ++ mark.spelling ++ "'"
  | unterminatedText => "unterminated string literal"
  | incompleteEscape => "incomplete escape"
  | unterminatedComment => "unterminated block comment"
  | numberOutOfRange spelling => "integer literal out of range: " ++ spelling
  | expectedStatement found => "expected statement, found " ++ describeFound found
  | expectedAction target found =>
    "expected set, add, replace or a value after '" ++ target ++ "', found " ++ describeFound found
  | expectedValue found => "expected a value, found " ++ describeFound found
  | expectedDelimiter delimiter found =>
    "expected " ++ delimiter.description ++ ", found " ++ describeFound found
  | unterminatedBlock => "unterminated block, expected '\x7d'"
  | wrongArity function least most found =>
    let expected :=
      if least = most then Text.nat least else Text.nat least ++ " to " ++ Text.nat most
    function ++ "() takes " ++ expected ++ " argument(s), found " ++ Text.nat found
  | misplacedFilter name => "'" ++ name ++ "' can only be used after 'has'"
  | unknownLabel name => "unknown label '" ++ name ++ "'"

structure SyntaxError where
  cause : SyntaxCause
  position : Position
deriving DecidableEq

namespace SyntaxError

def message (error : SyntaxError) : String :=
  error.cause.message

/-- The message behind the place that it is about. -/
def located (error : SyntaxError) : String :=
  Text.nat error.position.line ++ ":" ++ Text.nat error.position.column ++ ": " ++ error.message

end SyntaxError

end MediaNaming
