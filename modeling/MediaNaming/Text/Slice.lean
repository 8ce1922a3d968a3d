/-!
# Slices of texts

A slice is asked for by a start and perhaps a length, both 64-bit integers. Negative numbers count
as zero and numbers past the end reach the end.
-/

namespace MediaNaming.Text

/-- A 64-bit integer as a count of characters: nothing is fewer than none. -/
def countOf (n : Int64) : Nat :=
  n.toInt.toNat

/-- The characters from `start` on, at most `len` of them if a length is given. -/
def sliceChars (cs : List Char) (start : Int64) (len : Option Int64) : List Char :=
  let rest := cs.drop (countOf start)
  match len with
  | none => rest
  | some len => rest.take (countOf len)

def slice (text : String) (start : Int64) (len : Option Int64) : String :=
  String.ofList (sliceChars text.toList start len)

/-- The first `len` characters. -/
def truncate (text : String) (len : Int64) : String :=
  slice text 0 (some len)

@[simp] theorem toList_slice (text : String) (start : Int64) (len : Option Int64) :
    (slice text start len).toList = sliceChars text.toList start len :=
  String.toList_ofList

end MediaNaming.Text
