import MediaNaming.Json.Basic
import MediaNaming.Text.Decimal

/-!
# Printing JSON

Two layouts: all on one line without blanks, and one member a line with two blanks for each level.
In texts only quotes, backslashes and controls are escaped.
-/

namespace MediaNaming.Json

/-! ## Texts -/

def hexChar (n : Nat) : Char :=
  Nat.digitChar n

/-- A character between the quotes of a text. -/
def textChar (c : Char) : List Char :=
  if c = '"' then ['\\', '"']
  else if c = '\\' then ['\\', '\\']
  else if c = '\x08' then ['\\', 'b']
  else if c = '\x0c' then ['\\', 'f']
  else if c = '\n' then ['\\', 'n']
  else if c = '\r' then ['\\', 'r']
  else if c = '\t' then ['\\', 't']
  else if c.toNat < 0x20 then ['\\', 'u', '0', '0', hexChar (c.toNat / 16), hexChar (c.toNat % 16)]
  else [c]

def printText (text : String) : List Char :=
  '"' :: text.toList.flatMap textChar ++ ['"']

/-! ## One line -/

mutual

/-- The value on one line; a garbled value has no text of its own and is printed as `null`. -/
def compactChars : Json → List Char
  | .null => "null".toList
  | .bool true => "true".toList
  | .bool false => "false".toList
  | .integer n => Text.intChars n
  | .real spelling => spelling.toList
  | .text value => printText value
  | .array [] => ['[', ']']
  | .array (item :: items) => '[' :: compactChars item ++ compactItems items
  | .object [] => ['\x7b', '\x7d']
  | .object ((name, value) :: members) =>
    '\x7b' :: printText name ++ ':' :: compactChars value ++ compactMembers members
  | .garbled => "null".toList

/-- The items behind the first one, and the closing bracket. -/
def compactItems : List Json → List Char
  | [] => [']']
  | item :: items => ',' :: compactChars item ++ compactItems items

/-- The members behind the first one, and the closing brace. -/
def compactMembers : List (String × Json) → List Char
  | [] => ['\x7d']
  | (name, value) :: members =>
    ',' :: printText name ++ ':' :: compactChars value ++ compactMembers members

end

def compact (json : Json) : String :=
  String.ofList json.compactChars

/-! ## One member a line -/

/-- A new line at the given depth. -/
def newLine (depth : Nat) : List Char :=
  '\n' :: List.replicate (2 * depth) ' '

mutual

/-- The value with its parts on lines of their own, one level deeper than `depth`. -/
def prettyChars (depth : Nat) : Json → List Char
  | .array (item :: items) =>
    '[' :: newLine (depth + 1) ++ prettyChars (depth + 1) item ++ prettyItems depth items
  | .object ((name, value) :: members) =>
    '\x7b' :: newLine (depth + 1) ++ printText name ++ ':' :: ' ' ::
      prettyChars (depth + 1) value ++ prettyMembers depth members
  | json => compactChars json

/-- The items behind the first one, and the closing bracket. -/
def prettyItems (depth : Nat) : List Json → List Char
  | [] => newLine depth ++ [']']
  | item :: items =>
    ',' :: newLine (depth + 1) ++ prettyChars (depth + 1) item ++ prettyItems depth items

/-- The members behind the first one, and the closing brace. -/
def prettyMembers (depth : Nat) : List (String × Json) → List Char
  | [] => newLine depth ++ ['\x7d']
  | (name, value) :: members =>
    ',' :: newLine (depth + 1) ++ printText name ++ ':' :: ' ' :: prettyChars (depth + 1) value ++
      prettyMembers depth members

end

def pretty (json : Json) : String :=
  String.ofList (json.prettyChars 0)

example : compact (.object [("a", .array [.integer (-1), .null]), ("b\n", .bool true)]) =
    "\x7b\"a\":[-1,null],\"b\\n\":true\x7d" := by decide +kernel

end MediaNaming.Json
