import MediaNaming.Media.Episode

/-!
# Episode ranges

The numbers of a file's episodes in short: runs of numbers that follow on one another, kind by kind,
as in `01-03 05 S1-2`.
-/

namespace MediaNaming

/-! ## Ascending numbers -/

/-- Puts a number into an ascending list; one that is there already is not put in again. -/
def insertAscending (n : Int) : List Int → List Int
  | [] => [n]
  | m :: ms =>
    if n < m then n :: m :: ms
    else if n = m then m :: ms
    else m :: insertAscending n ms

/-- The distinct numbers of a list in ascending order. -/
def ascending (ns : List Int) : List Int :=
  ns.foldr insertAscending []

theorem mem_insertAscending {n k : Int} {ms : List Int} :
    k ∈ insertAscending n ms ↔ k = n ∨ k ∈ ms := by
  induction ms with
  | nil => simp [insertAscending]
  | cons m ms ih =>
    simp only [insertAscending]
    split
    · simp
    · split
      · simp_all
      · simp only [List.mem_cons, ih]
        grind

theorem mem_ascending {k : Int} {ns : List Int} : k ∈ ascending ns ↔ k ∈ ns := by
  induction ns with
  | nil => simp [ascending]
  | cons n ns ih => simpa [ascending, mem_insertAscending] using or_congr_right ih

/-! ## Runs -/

/-- The numbers from `first` to `last`, both included. -/
structure NumberRun where
  first : Int
  last : Int
deriving DecidableEq

/-- The longest runs in an ascending list that goes on behind the run from `first` to `last`. -/
def runsFrom (first last : Int) : List Int → List NumberRun
  | [] => [⟨first, last⟩]
  | n :: ns => if n = last + 1 then runsFrom first n ns else ⟨first, last⟩ :: runsFrom n n ns

/-- The longest runs in an ascending list. -/
def runs : List Int → List NumberRun
  | [] => []
  | n :: ns => runsFrom n n ns

/-- The run with its first number behind the letter; a run of one number is that number. -/
def NumberRun.toChars (letter : String) (width : Nat) (run : NumberRun) : List Char :=
  letter.toList ++ Text.paddedInt width run.first ++
    if run.last = run.first then [] else '-' :: Text.paddedInt width run.last

/-! ## Episodes -/

/-- The numbers of the episodes of one kind that belong to the anime. -/
def episodeNumbers (episodes : List Episode) (animeId : Int64) (kind : EpisodeKind) : List Int :=
  (episodes.filter fun episode => episode.animeId == animeId && episode.kind == kind).map
    fun episode => episode.number.toInt

theorem mem_episodeNumbers {episodes : List Episode} {animeId : Int64} {kind : EpisodeKind}
    {n : Int} :
    n ∈ episodeNumbers episodes animeId kind ↔
      ∃ episode ∈ episodes, episode.animeId = animeId ∧ episode.kind = kind ∧
        episode.number.toInt = n := by
  simp [episodeNumbers, and_assoc]

/-- The runs of each kind in order, each padded with zeros to the width. -/
def episodeRanges (episodes : List Episode) (animeId : Int64) (width : Nat) : String :=
  let items := EpisodeKind.all.flatMap fun kind =>
    (runs (ascending (episodeNumbers episodes animeId kind))).map fun run =>
      String.ofList (run.toChars kind.letter width)
  " ".intercalate items

end MediaNaming
