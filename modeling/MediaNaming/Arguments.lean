import MediaNaming.Text.Search

/-!
# Arguments

How the words of a command line are told apart: options with and without values, operands, and the
double hyphen behind which there are operands only.
-/

namespace MediaNaming

/-! ## Single words -/

/-- What a word of a command line is by its form. -/
inductive ArgumentForm where
  /-- An option, and the value that is written into the same word. -/
  | option (name : String) (attached : Option String)
  | operand (text : String)
  /-- The double hyphen. -/
  | endOfOptions
deriving DecidableEq

namespace ArgumentForm

/-- A long option: its value stands behind the first equals sign. -/
def ofLong (cs : List Char) : ArgumentForm :=
  match cs.span (· != '=') with
  | (name, _ :: value) => option ("--" ++ String.ofList name) (some (String.ofList value))
  | (name, []) => option ("--" ++ String.ofList name) none

/-- A short option of one letter: its value stands behind the letter or an equals sign. -/
def ofShort (letter : Char) : List Char → ArgumentForm
  | [] => option ("-" ++ String.singleton letter) none
  | '=' :: value => option ("-" ++ String.singleton letter) (some (String.ofList value))
  | value => option ("-" ++ String.singleton letter) (some (String.ofList value))

/-- The form of a word; a single hyphen is an operand. -/
def of (word : String) : ArgumentForm :=
  match word.toList with
  | ['-', '-'] => endOfOptions
  | '-' :: '-' :: cs => ofLong cs
  | '-' :: letter :: cs => ofShort letter cs
  | _ => operand word

end ArgumentForm

/-! ## All words -/

/-- Options and operands in the order in which they stand. -/
structure Arguments where
  options : List (String × String) := []
  flags : List String := []
  operands : List String := []

namespace Arguments

/-- Puts an option in front, which must not be given twice. -/
def addOption (name value : String) (arguments : Arguments) : Option Arguments :=
  if (arguments.options.lookup name).isSome then none
  else some { arguments with options := (name, value) :: arguments.options }

/-- Puts a flag in front, which must not be given twice. -/
def addFlag (name : String) (arguments : Arguments) : Option Arguments :=
  if arguments.flags.contains name then none
  else some { arguments with flags := name :: arguments.flags }

def addOperand (text : String) (arguments : Arguments) : Arguments :=
  { arguments with operands := text :: arguments.operands }

/--
Tells words apart, where the options in `valued` take a value and the ones in `flags` take none. A
value in a word of its own must not look like an option.
-/
def read? (valued flags : List String) : List String → Option Arguments
  | [] => some {}
  | word :: words =>
    match ArgumentForm.of word with
    | .operand text => (read? valued flags words).map (addOperand text)
    | .endOfOptions => some { operands := words }
    | .option name (some value) =>
      if valued.contains name then (read? valued flags words).bind (addOption name value) else none
    | .option name none =>
      if flags.contains name then
        (read? valued flags words).bind (addFlag name)
      else if valued.contains name then
        match words with
        | [] => none
        | value :: words =>
          match ArgumentForm.of value with
          | .operand value => (read? valued flags words).bind (addOption name value)
          | _ => none
      else
        none

end Arguments

end MediaNaming
