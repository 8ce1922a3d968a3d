import MediaNaming.Proofs.Placement.Segments
import MediaNaming.Script.Pass

/-!
# Only literals make levels

The markers of a path are those of the literals that a script joins it from. What else a script
computes, and so all that it takes from metadata, neither separates segments nor stands for one.
-/

namespace MediaNaming

/-! ## Markers of texts -/

namespace Marker

/-- The markers of a text, in order. -/
def markersOf (text : String) : List Char :=
  text.toList.filter isMarker

/-- The markers that literals have as parts of a path, in order. -/
def literalMarkers (literals : List String) : List Char :=
  literals.flatMap fun literal => markersOf (markLiteral literal)

/-- Whether a character separates segments where it stands in a literal. -/
def isSeparating (c : Char) : Bool :=
  c == '/' || c == '\\' || c == separator

/-- How often literals separate segments. -/
def separations (literals : List String) : Nat :=
  (literals.flatMap String.toList).countP isSeparating

@[simp] theorem markersOf_append (left right : String) :
    markersOf (left ++ right) = markersOf left ++ markersOf right := by
  simp [markersOf]

@[simp] theorem markersOf_strip (text : String) : markersOf (strip text) = [] := by
  simp [markersOf, strip, stripChars]

@[simp] theorem literalMarkers_append (left right : List String) :
    literalMarkers (left ++ right) = literalMarkers left ++ literalMarkers right :=
  List.flatMap_append

@[simp] theorem literalMarkers_singleton (literal : String) :
    literalMarkers [literal] = markersOf (markLiteral literal) :=
  List.append_nil _

@[simp] theorem separations_append (left right : List String) :
    separations (left ++ right) = separations left + separations right := by
  simp [separations]

theorem isSeparating_iff (c : Char) : ofLiteralChar c = separator ↔ isSeparating c = true := by
  unfold ofLiteralChar
  split
  · exact iff_of_true rfl rfl
  · exact iff_of_true rfl rfl
  · exact iff_of_false (by decide) (by decide)
  · next hslash hbackslash _ =>
    simp only [isSeparating, Bool.or_eq_true, beq_iff_eq]
    exact ⟨.inr, fun h => h.resolve_left fun h => h.elim hslash hbackslash⟩

theorem count_markersOf (text : String) :
    (markersOf text).count separator = text.toList.count separator :=
  List.count_filter rfl

theorem count_markLiteral (literal : String) :
    (markersOf (markLiteral literal)).count separator = literal.toList.countP isSeparating := by
  rw [count_markersOf, markLiteral, String.toList_ofList, markChars, List.count, List.countP_map]
  apply List.countP_congr
  intro c _
  exact beq_iff_eq.trans (isSeparating_iff c)

/-- Literals bring in one separator for each character that separates. -/
theorem count_literalMarkers (literals : List String) :
    (literalMarkers literals).count separator = separations literals := by
  induction literals with
  | nil => rfl
  | cons literal literals ih =>
    rw [literalMarkers, List.flatMap_cons, List.count_append, count_markLiteral]
    rw [separations, List.flatMap_cons, List.countP_append]
    exact congrArg _ ih

end Marker

/-! ## Literals of expressions -/

namespace Expr

mutual

/-- The literals that a text is joined from; those of computed texts do not count. -/
def literals : Expr → List String
  | .text value => [value]
  | .concat parts => literalsAll parts
  | _ => []

def literalsAll : List Expr → List String
  | [] => []
  | part :: parts => part.literals ++ literalsAll parts

end

section Markers

variable {request : Request}

/-- A computed text has no markers as part of a path. -/
theorem markersOf_computed {expr : Expr} {text : String}
    (h : (do return Marker.strip (← expr.evalText request)) = Except.ok (ε := EvalError) text) :
    Marker.markersOf text = [] := by
  obtain ⟨value, -, hvalue⟩ := bind_eq_ok_iff.mp h
  cases hvalue
  exact Marker.markersOf_strip value

mutual

/-- The markers of a path are those of its literals, whatever the request. -/
theorem markersOf_evalPath (expr : Expr) {text : String}
    (h : expr.evalPath request = .ok text) :
    Marker.markersOf text = Marker.literalMarkers expr.literals := by
  cases expr with
  | text value =>
    cases h
    exact (Marker.literalMarkers_singleton value).symm
  | concat parts => exact markersOf_joinedPaths parts h
  | _ => exact markersOf_computed h

theorem markersOf_joinedPaths (parts : List Expr) {text : String}
    (h : joinedPaths request parts = .ok text) :
    Marker.markersOf text = Marker.literalMarkers (literalsAll parts) := by
  cases parts with
  | nil =>
    cases h
    rfl
  | cons part parts =>
    -- The parts are joined in order, and so are their markers.
    unfold joinedPaths at h
    obtain ⟨first, hfirst, h⟩ := bind_eq_ok_iff.mp h
    obtain ⟨more, hmore, hreturn⟩ := bind_eq_ok_iff.mp h
    cases hreturn
    have hhead := markersOf_evalPath part hfirst
    have htail := markersOf_joinedPaths parts hmore
    rw [Marker.markersOf_append, hhead, htail, literalsAll, Marker.literalMarkers_append]

end

end Markers

end Expr

/-! ## Literals of programs -/

/-- The literals of what is written to a target, if that becomes part of a path. -/
def Target.pathLiterals : Target → List Expr → List String
  | .subfolder, parts => Expr.literalsAll parts
  | _, _ => []

mutual

/-- The literals that a statement, or one within it, may bring into the subfolder. -/
def Statement.subfolderLiterals : Statement → List String
  | .choose branches => branches.subfolderLiterals
  | .set target parts => target.pathLiterals parts
  | .add target parts => target.pathLiterals parts
  | _ => []

def Branches.subfolderLiterals : Branches → List String
  | .done => []
  | .otherwise body => Statement.subfolderLiteralsAll body
  | .branch _ body rest => Statement.subfolderLiteralsAll body ++ rest.subfolderLiterals

def Statement.subfolderLiteralsAll : List Statement → List String
  | [] => []
  | statement :: statements =>
    statement.subfolderLiterals ++ Statement.subfolderLiteralsAll statements

end

mutual

/-- Whether a statement, or one within it, replaces text within the subfolder. -/
def Statement.replacesSubfolder : Statement → Bool
  | .choose branches => branches.replacesSubfolder
  | .replace .subfolder _ _ => true
  | _ => false

def Branches.replacesSubfolder : Branches → Bool
  | .done => false
  | .otherwise body => Statement.anyReplacesSubfolder body
  | .branch _ body rest => Statement.anyReplacesSubfolder body || rest.replacesSubfolder

def Statement.anyReplacesSubfolder : List Statement → Bool
  | [] => false
  | statement :: statements =>
    statement.replacesSubfolder || Statement.anyReplacesSubfolder statements

end

namespace Program

def subfolderLiterals (program : Program) : List String :=
  Statement.subfolderLiteralsAll program.statements

def replacesSubfolder (program : Program) : Bool :=
  Statement.anyReplacesSubfolder program.statements

end Program

/-! ## Levels of buffers -/

/-- How often a subfolder is separated into segments. -/
def Buffers.separators (buffers : Buffers) : Nat :=
  buffers.subfolder.toList.count Marker.separator

/-- From one state of the buffers to another, literals may have added separators. -/
def Buffers.Separated (literals : List String) (before after : Buffers) : Prop :=
  after.separators ≤ before.separators + Marker.separations literals

namespace Buffers.Separated

variable {literals more : List String} {first second third : Buffers}

/-- The subfolder is the same, and what it is separated into. -/
theorem of_subfolder_eq (literals : List String) (h : second.subfolder = first.subfolder) :
    Separated literals first second := by
  unfold Separated separators
  rw [h]
  exact Nat.le_add_right _ _

theorem trans (hfirst : Separated literals first second) (hmore : Separated more second third) :
    Separated (literals ++ more) first third := by
  unfold Separated at *
  rw [Marker.separations_append]
  omega

theorem append_left (literals : List String) (h : Separated more first second) :
    Separated (literals ++ more) first second :=
  (of_subfolder_eq literals rfl).trans h

theorem append_right (more : List String) (h : Separated literals first second) :
    Separated (literals ++ more) first second :=
  h.trans (of_subfolder_eq more rfl)

/-- The subfolder is written, by itself or behind what it was, as a path of literals. -/
theorem of_markersOf {text : String}
    (hmarkers : Marker.markersOf text = Marker.literalMarkers literals)
    (h : second.subfolder = text ∨ second.subfolder = first.subfolder ++ text) :
    Separated literals first second := by
  have htext : text.toList.count Marker.separator = Marker.separations literals := by
    rw [← Marker.count_markersOf, hmarkers, Marker.count_literalMarkers]
  unfold Separated separators
  rcases h with h | h
  · rw [h, htext]
    exact Nat.le_add_left _ _
  · have hcount : (first.subfolder ++ text).toList.count Marker.separator =
        first.subfolder.toList.count Marker.separator + Marker.separations literals := by
      rw [String.toList_append, List.count_append, htext]
    rw [h]
    exact Nat.le_of_eq hcount

end Buffers.Separated

/-! ## Runs -/

section Running

variable {pass : Pass} {request : Request} {before after : Buffers}

theorem ofEval_eq_ok_iff {α : Type} {result : Except EvalError α} {a : α} :
    ofEval result = .ok a ↔ result = .ok a := by
  cases result with
  | error error => simp [ofEval, Except.mapError]
  | ok value => simp [ofEval, Except.mapError]

/-- What is written into the subfolder is joined as a path. -/
theorem joined_subfolder (request : Request) (parts : List Expr) :
    Target.subfolder.joined request parts = Expr.joinedPaths request parts := by
  induction parts with
  | nil => rfl
  | cons part parts ih =>
    unfold Target.joined Expr.joinedPaths
    rw [ih]
    rfl

/-- A statement that writes a text leaves the buffers as they are or writes what it joined. -/
theorem kept_or_written {target : Target} {parts : List Expr} {write : String → Buffers}
    (h : (if pass.runs target then do
        let text ← ofEval (target.joined request parts)
        return .completed (write text)
      else
        .ok (.completed before)) = Except.ok (ε := PassError) (Outcome.completed after)) :
    after = before ∨ ∃ text, target.joined request parts = .ok text ∧ after = write text := by
  split at h
  · obtain ⟨text, htext, hreturn⟩ := bind_eq_ok_iff.mp h
    cases hreturn
    exact .inr ⟨text, ofEval_eq_ok_iff.mp htext, rfl⟩
  · cases h
    exact .inl rfl

theorem separated_write {target : Target} {parts : List Expr} {text : String}
    (htext : target.joined request parts = .ok text)
    (h : after = before.set target text ∨ after = before.add target text) :
    Buffers.Separated (target.pathLiterals parts) before after := by
  cases target with
  | subfolder =>
    rw [joined_subfolder] at htext
    have hmarkers := Expr.markersOf_joinedPaths parts htext
    rcases h with rfl | rfl
    · exact .of_markersOf hmarkers (.inl rfl)
    · exact .of_markersOf hmarkers (.inr rfl)
  | _ =>
    -- The other targets have buffers of their own.
    rcases h with rfl | rfl <;> exact .of_subfolder_eq _ rfl

theorem separated_set {target : Target} {parts : List Expr}
    (h : Statement.run pass request before (.set target parts) = .ok (.completed after)) :
    Buffers.Separated (target.pathLiterals parts) before after := by
  unfold Statement.run at h
  rcases kept_or_written h with rfl | ⟨text, htext, hafter⟩
  · exact .of_subfolder_eq _ rfl
  · exact separated_write htext (.inl hafter)

theorem separated_add {target : Target} {parts : List Expr}
    (h : Statement.run pass request before (.add target parts) = .ok (.completed after)) :
    Buffers.Separated (target.pathLiterals parts) before after := by
  unfold Statement.run at h
  rcases kept_or_written h with rfl | ⟨text, htext, hafter⟩
  · exact .of_subfolder_eq _ rfl
  · exact separated_write htext (.inr hafter)

/-- Replacing elsewhere leaves the subfolder alone. -/
theorem separated_replace {target : Target} {pattern image : Expr}
    (hkeep : (Statement.replace target pattern image).replacesSubfolder = false)
    (h : Statement.run pass request before (.replace target pattern image) =
      .ok (.completed after)) :
    Buffers.Separated [] before after := by
  unfold Statement.run at h
  split at h
  · obtain ⟨found, -, h⟩ := bind_eq_ok_iff.mp h
    obtain ⟨instead, -, hreturn⟩ := bind_eq_ok_iff.mp h
    cases hreturn
    cases target with
    | subfolder => cases hkeep
    | _ => exact .of_subfolder_eq _ rfl
  · cases h
    exact .of_subfolder_eq _ rfl

mutual

/-- A statement that completes adds no more separators than its literals hold. -/
theorem separated_run (statement : Statement) {before after : Buffers}
    (hkeep : statement.replacesSubfolder = false)
    (h : statement.run pass request before = .ok (.completed after)) :
    Buffers.Separated statement.subfolderLiterals before after := by
  cases statement with
  | choose branches =>
    unfold Statement.run at h
    exact separated_branches branches hkeep h
  | set target parts => exact separated_set h
  | add target parts => exact separated_add h
  | replace target pattern image => exact separated_replace hkeep h
  | skip =>
    unfold Statement.run at h
    cases h
  | cancel parts =>
    unfold Statement.run at h
    obtain ⟨message, -, hthrow⟩ := bind_eq_ok_iff.mp h
    cases hthrow

theorem separated_branches (branches : Branches) {before after : Buffers}
    (hkeep : branches.replacesSubfolder = false)
    (h : branches.run pass request before = .ok (.completed after)) :
    Buffers.Separated branches.subfolderLiterals before after := by
  cases branches with
  | done =>
    unfold Branches.run at h
    cases h
    exact .of_subfolder_eq _ rfl
  | otherwise body =>
    unfold Branches.run at h
    exact separated_runAll body hkeep h
  | branch condition body rest =>
    unfold Branches.run at h
    obtain ⟨hbody, hrest⟩ := Bool.or_eq_false_iff.mp hkeep
    obtain ⟨holds, -, h⟩ := bind_eq_ok_iff.mp h
    -- Only one of the two runs, but the literals of both may bring in separators.
    cases holds with
    | true => exact (separated_runAll body hbody h).append_right _
    | false => exact (separated_branches rest hrest h).append_left _

theorem separated_runAll (statements : List Statement) {before after : Buffers}
    (hkeep : Statement.anyReplacesSubfolder statements = false)
    (h : Statement.runAll pass request before statements = .ok (.completed after)) :
    Buffers.Separated (Statement.subfolderLiteralsAll statements) before after := by
  cases statements with
  | nil =>
    unfold Statement.runAll at h
    cases h
    exact .of_subfolder_eq _ rfl
  | cons statement statements =>
    unfold Statement.runAll at h
    obtain ⟨hfirst, hrest⟩ := Bool.or_eq_false_iff.mp hkeep
    obtain ⟨outcome, houtcome, h⟩ := bind_eq_ok_iff.mp h
    cases outcome with
    | completed between =>
      -- What the first statement adds stays, unless a later one sets the subfolder anew.
      exact (separated_run statement hfirst houtcome).trans (separated_runAll statements hrest h)
    | skipped => cases h

end

/-- A whole pass starts with an empty subfolder. -/
theorem separators_program {program : Program} (hkeep : program.replacesSubfolder = false)
    (h : program.run pass request = .ok (.completed after)) :
    after.separators ≤ Marker.separations program.subfolderLiterals := by
  have hseparated := separated_runAll program.statements hkeep h
  unfold Buffers.Separated at hseparated
  rwa [show Buffers.separators {} = 0 from rfl, Nat.zero_add] at hseparated

end Running

/-! ## Levels of destinations -/

theorem Path.length_components_le (path : String) :
    (Path.components path).length ≤ (Text.split '/' path).length :=
  List.length_filter_le _ _

/-- A destination has at most one segment more than its buffer has separators. -/
theorem Placement.length_split_le {buffers : Buffers} {folders : List ImportFolder}
    {path : String} {policy : SanitizePolicy} {destination : Destination}
    (hwritten : buffers.subfolderWritten = true)
    (h : Placement.resolve buffers folders path policy = .ok (some destination)) :
    (Text.split '/' destination.subfolder).length ≤ 1 + buffers.separators := by
  obtain ⟨found, -, hsplit, -, hfound⟩ := Placement.pieces_of_resolve h
  rw [if_pos hwritten] at hfound
  have hlength := Placement.length_segmentsFrom_le hfound
  rw [Text.split, List.length_map, Text.length_splitChars, Nat.add_comm] at hlength
  rw [hsplit]
  exact hlength

/--
The markers of a path are those of its literals, and so the same for all requests. A subfolder that
is written and nowhere replaced has at most one segment more than the literals separate, whatever
the metadata of the file and wherever it is.
-/
theorem metadata_makes_no_levels :
    (∀ (expr : Expr) (request : Request) (text : String), expr.evalPath request = .ok text →
      Marker.markersOf text = Marker.literalMarkers expr.literals) ∧
    (∀ (expr : Expr) (request other : Request) (text otherText : String),
      expr.evalPath request = .ok text → expr.evalPath other = .ok otherText →
        Marker.markersOf text = Marker.markersOf otherText) ∧
    ∀ (program : Program) (request : Request) (buffers : Buffers) (folders : List ImportFolder)
      (path : String) (policy : SanitizePolicy) (destination : Destination),
      program.replacesSubfolder = false →
      program.run .placement request = .ok (.completed buffers) →
      buffers.subfolderWritten = true →
      Placement.resolve buffers folders path policy = .ok (some destination) →
        (Path.components destination.subfolder).length ≤
            (Text.split '/' destination.subfolder).length ∧
          (Text.split '/' destination.subfolder).length ≤
            1 + Marker.separations program.subfolderLiterals := by
  refine ⟨fun expr request text h => Expr.markersOf_evalPath expr h, ?_, ?_⟩
  · intro expr request other text otherText h hother
    rw [Expr.markersOf_evalPath expr h, Expr.markersOf_evalPath expr hother]
  · intro program request buffers folders path policy destination hkeep hrun hwritten hresolve
    refine ⟨Path.length_components_le _, ?_⟩
    have hlength := Placement.length_split_le hwritten hresolve
    have hseparators := separators_program hkeep hrun
    omega

/-- A title that is full of slashes, stars and markers becomes one segment. -/
theorem metadata_makes_no_levels_of_title :
    let request : Request := {
      file := { id := 1, path := "/lib/a.mkv" }
      anime := [{ id := 1, preferredTitle := "../\\*\uE000\uE001A", kind := .movie }]
      episodes := [{ id := 1, animeId := 1, number := 1, kind := .episode }] }
    let library : ImportFolder :=
      { id := 1, name := "Library", location := "/lib", role := .destination }
    let buffers : Buffers := { subfolder := "Shows\uE000../\\*A", subfolderWritten := true }
    Marker.markersOf "Shows\uE000../\\*A" = ['\uE000'] ∧
      Placement.resolve buffers [library] request.file.path {} =
        .ok (some ⟨library, "Shows/..⁄\\*A"⟩) ∧
      (Text.split '/' "Shows/..⁄\\*A").length ≤ 2 := by
  intro request library buffers
  -- The slash of the literal separates; that of the title becomes a character that looks like one.
  let parts : List Expr := [.text "Shows/", .label (.text .animeTitlePreferred)]
  have hevaluated : Expr.evalPath request (.concat parts) =
      .ok "Shows\uE000../\\*A" := by decide +kernel
  have hrun : Program.run ⟨[.set .subfolder parts]⟩ .placement request =
      .ok (.completed buffers) := by decide +kernel
  have hresolve : Placement.resolve buffers [library] request.file.path {} =
      .ok (some ⟨library, "Shows/..⁄\\*A"⟩) := by decide +kernel
  have hlength := metadata_makes_no_levels.2.2 _ _ _ _ _ _ _ rfl hrun rfl hresolve
  exact ⟨metadata_makes_no_levels.1 _ _ _ hevaluated, hresolve, hlength.2⟩

end MediaNaming
