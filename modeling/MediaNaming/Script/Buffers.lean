/-!
# Buffers

The three texts that a script writes, and whether it has written those that place the file.
-/

namespace MediaNaming

structure Buffers where
  filename : String := ""
  destination : String := ""
  /-- The subfolder, with markers. -/
  subfolder : String := ""
  destinationWritten : Bool := false
  subfolderWritten : Bool := false
deriving DecidableEq

end MediaNaming
