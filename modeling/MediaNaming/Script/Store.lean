import MediaNaming.Script.Parser
import Std.Data.HashMap

/-!
# Stores of parsed scripts

A store keeps what the scripts it was last asked for were read as, so that each is parsed once. It
holds a bounded number of scripts; the one that came first leaves first, however often it is used.
-/

namespace MediaNaming

/-- What a script was read as. The number tells whether a reading is new or used again. -/
structure ParsedScript where
  program : Program
  number : Nat

/-- What a script was read as, or why it could not be read. -/
abbrev Reading := Except SyntaxError ParsedScript

/-- The readings of a store under the digests of their scripts. -/
abbrev StoredReadings := Std.HashMap String Reading

structure ScriptStore where
  capacity : Nat
  /-- What a script is stored under: the script itself, or something shorter that stands for it. -/
  digest : String → String := id
  readings : StoredReadings := ∅
  /-- The digests of the stored scripts, oldest first. -/
  order : List String := []
  /-- The number of the next reading. -/
  nextNumber : Nat := 0

namespace ScriptStore

def empty (capacity : Nat) (digest : String → String := id) : ScriptStore :=
  { capacity, digest }

def size (store : ScriptStore) : Nat :=
  store.readings.size

def isEmpty (store : ScriptStore) : Bool :=
  store.size == 0

/-- What the store holds for a script. -/
def find? (store : ScriptStore) (script : String) : Option Reading :=
  store.readings[store.digest script]?

/-- Parses a script into a reading with the given number. -/
def parse (script : String) (number : Nat) : Reading := do
  let program ← Program.parse script
  return ⟨program, number⟩

/-- What is left when the oldest leave one by one until there are less than `capacity`. -/
def evict (capacity : Nat) (readings : StoredReadings) :
    List String → StoredReadings × List String
  | [] => (readings, [])
  | oldest :: order =>
    if capacity ≤ order.length + 1 then
      evict capacity (readings.erase oldest) order
    else
      (readings, oldest :: order)

/-- Puts a reading behind the others, unless there is one under its digest. -/
def insert (store : ScriptStore) (key : String) (reading : Reading) : ScriptStore :=
  if key ∈ store.readings then
    store
  else
    let (readings, order) := evict store.capacity store.readings store.order
    { store with readings := readings.insert key reading, order := order ++ [key] }

/--
The reading of a script, from the store if it is there; else it is parsed and, unless the capacity
is zero, stored.
-/
def get (store : ScriptStore) (script : String) : Reading × ScriptStore :=
  match store.find? script with
  | some reading => (reading, store)
  | none =>
    let reading := parse script store.nextNumber
    let store := { store with nextNumber := store.nextNumber + 1 }
    if store.capacity = 0 then
      (reading, store)
    else
      (reading, store.insert (store.digest script) reading)

def clear (store : ScriptStore) : ScriptStore :=
  { store with readings := ∅, order := [] }

end ScriptStore

end MediaNaming
