import MediaNaming.Text.HiddenTable

/-!
# Quoted texts

A text in double quotes as messages show it: quotes and backslashes are escaped, the usual controls
have a letter, and what has no visible form is spelt by its number.
-/

namespace MediaNaming.Text

/-- A character between quotes. -/
def quotedChar (c : Char) : List Char :=
  if c = '\x00' then ['\\', '0']
  else if c = '\t' then ['\\', 't']
  else if c = '\r' then ['\\', 'r']
  else if c = '\n' then ['\\', 'n']
  else if c = '\\' ∨ c = '"' then ['\\', c]
  else if isHidden c then "\\u\x7b".toList ++ Nat.toDigits 16 c.toNat ++ ['\x7d']
  else [c]

def quoted (text : String) : String :=
  String.ofList ('"' :: text.toList.flatMap quotedChar ++ ['"'])

example : quoted "a\"b\té\u0301" = "\"a\\\"b\\té\\u\x7b301\x7d\"" := by decide +kernel

end MediaNaming.Text
