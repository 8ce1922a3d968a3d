import MediaNaming.Json.Basic
import MediaNaming.Text.Decimal

/-!
# Decoding JSON

Readers of single values and of records. A record is an object, or an array of its fields in
order; fields that are not known are passed over, and a known one stands once at most.
-/

namespace MediaNaming.Json

/-! ## Single values -/

def bool? : Json → Option Bool
  | .bool flag => some flag
  | _ => none

def text? : Json → Option String
  | .text value => some value
  | _ => none

def int64? : Json → Option Int64
  | .integer n => Text.toInt64? n
  | _ => none

def uint64? : Json → Option UInt64
  | .integer n => Text.toUInt64? n
  | _ => none

def byte? : Json → Option UInt8
  | .integer n => if 0 ≤ n ∧ n < 256 then some (UInt8.ofNat n.toNat) else none
  | _ => none

/-- An array whose items all decode. -/
def list? {α : Type} (decode : Json → Option α) : Json → Option (List α)
  | .array items => items.mapM decode
  | _ => none

/-- `null` for no value, or a value that decodes. -/
def option? {α : Type} (decode : Json → Option α) : Json → Option (Option α)
  | .null => some none
  | json => (decode json).map some

/-- A bare name: a text, or an object that gives this one name the value `null`. -/
def name? : Json → Option String
  | .text name => some name
  | .object [(name, .null)] => some name
  | _ => none

/-! ## Records -/

/-- The known fields that a record has. -/
abbrev Record := List (String × Json)

/-- Reads a record whose fields are called `names`, in this order. -/
def record? (names : List String) : Json → Option Record
  | .object members =>
    let known := members.filter fun member => names.contains member.1
    if (known.map Prod.fst).Nodup then some known else none
  | .array items => if items.length ≤ names.length then some (names.zip items) else none
  | _ => none

namespace Record

/-- A field that must be there. -/
def field {α : Type} (record : Record) (name : String) (decode : Json → Option α) : Option α :=
  (record.lookup name).bind decode

/-- A field that has the value `absent` if it is not there. -/
def fieldOr {α : Type} (record : Record) (name : String) (absent : α) (decode : Json → Option α) :
    Option α :=
  match record.lookup name with
  | some json => decode json
  | none => some absent

end Record

end MediaNaming.Json
