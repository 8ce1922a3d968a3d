/-!
# JSON values

The values of JSON. Members of an object keep their order and may repeat a name. Numbers are told
apart by how they are written: an integer is a plain run of digits within 64 bits.
-/

namespace MediaNaming

inductive Json where
  | null
  | bool (flag : Bool)
  | integer (value : Int)
  /-- A number with a fraction, an exponent or too many digits, and `-0`. -/
  | real (spelling : String)
  | text (value : String)
  | array (items : List Json)
  | object (members : List (String × Json))
  /-- A text, or an object with such a name, that holds half of a surrogate pair. -/
  | garbled

namespace Json

/-- An object whose names may be garbled, which garbles the object. -/
def ofMembers (members : List (Option String × Json)) : Json :=
  match members.mapM fun (name, value) => name.map (·, value) with
  | some members => .object members
  | none => .garbled

/-- The text of an optional value: `null` stands for no value. -/
def ofOption {α : Type} (encode : α → Json) : Option α → Json
  | none => .null
  | some a => encode a

def ofList {α : Type} (encode : α → Json) (items : List α) : Json :=
  .array (items.map encode)

def ofNat (n : Nat) : Json :=
  .integer n

def ofInt64 (n : Int64) : Json :=
  .integer n.toInt

def ofUInt64 (n : UInt64) : Json :=
  .integer n.toNat

def ofByte (n : UInt8) : Json :=
  .integer n.toNat

end Json

end MediaNaming
