import Mathlib.Data.List.Forall2
import MediaNaming.Proofs.Results
import MediaNaming.Script.Eval

/-!
# Leaves of expressions

A concatenation joins what its parts say, and these may be concatenations again. So what it says is
joined from its leaves, the expressions that are none, in whatever way these are read: as texts or
as parts of a path. The two readings differ by what single leaves contribute and fail alike.
-/

namespace MediaNaming

/-! ## Plain texts -/

namespace Marker

/-- The text holds nothing that counts in a path: no slash of either kind, star or marker. -/
def IsPlain (text : String) : Prop :=
  ∀ c ∈ text.toList, c ∉ ['/', '\\', '*', separator, wildcard]

instance (text : String) : Decidable (IsPlain text) :=
  List.decidableBAll (fun c => c ∉ ['/', '\\', '*', separator, wildcard]) text.toList

section Plain

variable {text : String}

theorem ofLiteralChar_eq_self {c : Char} (h : c ∉ ['/', '\\', '*', separator, wildcard]) :
    ofLiteralChar c = c := by
  simp only [List.mem_cons, not_or] at h
  unfold ofLiteralChar
  split
  · exact absurd rfl h.1
  · exact absurd rfl h.2.1
  · exact absurd rfl h.2.2.1
  · rfl

theorem markLiteral_of_isPlain (h : IsPlain text) : markLiteral text = text := by
  have hchars : markChars text.toList = text.toList :=
    (List.map_congr_left fun c hc => ofLiteralChar_eq_self (h c hc)).trans (List.map_id _)
  rw [markLiteral, hchars, String.ofList_toList]

theorem strip_of_isPlain (h : IsPlain text) : strip text = text := by
  have hchars : stripChars text.toList = text.toList := by
    refine List.filter_eq_self.mpr fun c hc => ?_
    have hplain := h c hc
    simp only [List.mem_cons, not_or] at hplain
    simp [isMarker, hplain]
  rw [strip, hchars, String.ofList_toList]

theorem IsPlain.of_mem_join {pieces : List String} (h : IsPlain (String.join pieces))
    {piece : String} (hpiece : piece ∈ pieces) : IsPlain piece := by
  intro c hc
  refine h c ?_
  rw [String.toList_join]
  exact List.mem_flatMap.mpr ⟨piece, hpiece, hc⟩

end Plain

end Marker

namespace Expr

/-! ## Leaves -/

mutual

/-- What an expression is joined from, down to the expressions that are no concatenations. -/
def leaves : Expr → List Expr
  | .concat parts => leavesAll parts
  | expr => [expr]

def leavesAll : List Expr → List Expr
  | [] => []
  | part :: parts => part.leaves ++ leavesAll parts

end

theorem leavesAll_append (left right : List Expr) :
    leavesAll (left ++ right) = leavesAll left ++ leavesAll right := by
  induction left with
  | nil => rfl
  | cons part left ih => rw [List.cons_append, leavesAll, ih, leavesAll, List.append_assoc]

mutual

theorem not_concat_of_mem_leaves (expr : Expr) {leaf : Expr} (h : leaf ∈ expr.leaves)
    (parts : List Expr) : leaf ≠ .concat parts := by
  cases expr with
  | concat parts => exact not_concat_of_mem_leavesAll parts h _
  | _ =>
    obtain rfl := List.mem_singleton.mp h
    exact Expr.noConfusion

theorem not_concat_of_mem_leavesAll (exprs : List Expr) {leaf : Expr}
    (h : leaf ∈ leavesAll exprs) (parts : List Expr) : leaf ≠ .concat parts := by
  cases exprs with
  | nil => cases h
  | cons expr exprs =>
    rcases List.mem_append.mp h with hhead | htail
    · exact not_concat_of_mem_leaves expr hhead parts
    · exact not_concat_of_mem_leavesAll exprs htail parts

end

/-! ## Joined readings -/

section Readings

variable {reading : Expr → Except EvalError String}

/-- What a reading gives for the expressions, one behind the other; the first error counts. -/
def joinWith (reading : Expr → Except EvalError String) (exprs : List Expr) :
    Except EvalError String :=
  String.join <$> exprs.mapM reading

@[simp] theorem joinWith_nil (reading : Expr → Except EvalError String) :
    joinWith reading [] = .ok "" := rfl

theorem joinWith_cons (expr : Expr) (exprs : List Expr) :
    joinWith reading (expr :: exprs) = do
      let text ← reading expr
      return text ++ (← joinWith reading exprs) := by
  rw [joinWith, joinWith, List.mapM_cons]
  cases reading expr with
  | error error => rfl
  | ok text =>
    cases exprs.mapM reading with
    | error error => rfl
    | ok texts => exact congrArg Except.ok String.join_cons

theorem joinWith_append (left right : List Expr) :
    joinWith reading (left ++ right) = do
      let text ← joinWith reading left
      return text ++ (← joinWith reading right) := by
  rw [joinWith, joinWith, joinWith, List.mapM_append]
  cases left.mapM reading with
  | error error => rfl
  | ok texts =>
    cases right.mapM reading with
    | error error => rfl
    | ok more => exact congrArg Except.ok String.join_append

@[simp] theorem joinWith_singleton (expr : Expr) : joinWith reading [expr] = reading expr := by
  rw [joinWith_cons]
  cases reading expr with
  | error error => rfl
  | ok text => exact congrArg Except.ok String.append_empty

/-- The reading of a concatenation is that of its parts, one behind the other. -/
def Joins (reading : Expr → Except EvalError String) : Prop :=
  ∀ parts, reading (.concat parts) = joinWith reading parts

namespace Joins

mutual

theorem joinWith_leaves (h : Joins reading) (expr : Expr) :
    joinWith reading expr.leaves = reading expr := by
  cases expr with
  | concat parts => exact (joinWith_leavesAll h parts).trans (h parts).symm
  | _ => exact joinWith_singleton _

/-- A reading that joins sees no concatenations, at no depth, but their leaves alone. -/
theorem joinWith_leavesAll (h : Joins reading) (exprs : List Expr) :
    joinWith reading (leavesAll exprs) = joinWith reading exprs := by
  cases exprs with
  | nil => rfl
  | cons expr exprs =>
    rw [leavesAll, joinWith_append, joinWith_cons, joinWith_leaves h expr,
      joinWith_leavesAll h exprs]

end

end Joins

end Readings

/-! ## Texts and parts of paths -/

variable {request : Request}

theorem joinedTexts_eq_joinWith (request : Request) (parts : List Expr) :
    joinedTexts request parts = joinWith (evalText request) parts := by
  induction parts with
  | nil =>
    unfold joinedTexts
    rfl
  | cons part parts ih =>
    unfold joinedTexts
    rw [joinWith_cons, ih, evalText, bind_assoc]

theorem joinedPaths_eq_joinWith (request : Request) (parts : List Expr) :
    joinedPaths request parts = joinWith (evalPath request) parts := by
  induction parts with
  | nil => rfl
  | cons part parts ih => rw [joinedPaths, joinWith_cons, ih]

theorem joins_evalText (request : Request) : Joins (evalText request) := by
  intro parts
  rw [← joinedTexts_eq_joinWith, evalText]
  unfold eval
  cases joinedTexts request parts with
  | error error => rfl
  | ok text => rfl

theorem joins_evalPath (request : Request) : Joins (evalPath request) := by
  intro parts
  rw [← joinedPaths_eq_joinWith]
  rfl

/-- What a leaf with the text `words` contributes to a path: literals bring markers in. -/
def pathPiece : Expr → String → String
  | .text _, words => Marker.markLiteral words
  | _, words => Marker.strip words

/-- As part of a path a leaf is its text, with markers if it is a literal and else without. -/
theorem evalPath_of_leaf {leaf : Expr} (h : ∀ parts, leaf ≠ .concat parts) :
    leaf.evalPath request = leaf.pathPiece <$> leaf.evalText request := by
  cases leaf with
  | concat parts => exact absurd rfl (h parts)
  | text value =>
    unfold evalText eval
    rfl
  | _ => rfl

theorem pathPiece_of_isPlain {text : String} (h : Marker.IsPlain text) (leaf : Expr) :
    leaf.pathPiece text = text := by
  cases leaf with
  | text value => exact Marker.markLiteral_of_isPlain h
  | _ => exact Marker.strip_of_isPlain h

/-- Leaves are read alike as texts and as parts of a path, but for what becomes of each text. -/
theorem mapM_evalPath {exprs : List Expr} (h : ∀ expr ∈ exprs, ∀ parts, expr ≠ .concat parts) :
    exprs.mapM (evalPath request) =
      List.zipWith pathPiece exprs <$> exprs.mapM (evalText request) := by
  induction exprs with
  | nil => rfl
  | cons expr exprs ih =>
    obtain ⟨hexpr, hexprs⟩ := List.forall_mem_cons.mp h
    rw [List.mapM_cons, List.mapM_cons, ih hexprs, evalPath_of_leaf hexpr]
    cases expr.evalText request with
    | error error => rfl
    | ok text => cases exprs.mapM (evalText request) <;> rfl

theorem mapM_eq_ok_iff {reading : Expr → Except EvalError String} {exprs : List Expr}
    {texts : List String} :
    exprs.mapM reading = .ok texts ↔
      List.Forall₂ (fun expr text => reading expr = .ok text) exprs texts := by
  induction exprs generalizing texts with
  | nil =>
    rw [List.mapM_nil, List.forall₂_nil_left_iff]
    exact ⟨fun h => (Except.ok.inj h).symm, fun h => congrArg Except.ok h.symm⟩
  | cons expr exprs ih =>
    rw [List.mapM_cons, List.forall₂_cons_left_iff]
    constructor
    · intro h
      obtain ⟨text, htext, hrest⟩ := bind_eq_ok_iff.mp h
      obtain ⟨more, hmore, hreturn⟩ := bind_eq_ok_iff.mp hrest
      cases hreturn
      exact ⟨text, more, htext, ih.mp hmore, rfl⟩
    · rintro ⟨text, more, htext, hmore, rfl⟩
      rw [htext, ok_bind, ih.mpr hmore]
      rfl

/-! ## The two readings of an expression -/

/-- Both readings are joined from the texts of the leaves; if a leaf has none, both fail as it. -/
theorem readings_of_leaves (expr : Expr) (request : Request) :
    (∃ error, expr.leaves.mapM (evalText request) = .error error ∧
      expr.evalText request = .error error ∧ expr.evalPath request = .error error) ∨
    ∃ pieces, expr.leaves.mapM (evalText request) = .ok pieces ∧
      expr.evalText request = .ok (String.join pieces) ∧
      expr.evalPath request = .ok (String.join (List.zipWith pathPiece expr.leaves pieces)) := by
  have htext := (joins_evalText request).joinWith_leaves expr
  have hpath := (joins_evalPath request).joinWith_leaves expr
  rw [joinWith] at htext
  rw [joinWith, mapM_evalPath fun leaf hleaf => not_concat_of_mem_leaves expr hleaf] at hpath
  rw [← htext, ← hpath]
  cases expr.leaves.mapM (evalText request) with
  | error error => exact .inl ⟨error, rfl, rfl, rfl⟩
  | ok pieces => exact .inr ⟨pieces, rfl, rfl, rfl⟩

/-- Plain pieces are the same in a path, be they literals or not. -/
theorem zipWith_pathPiece {leaves : List Expr} {pieces : List String}
    (hlength : leaves.length = pieces.length) (hplain : ∀ piece ∈ pieces, Marker.IsPlain piece) :
    List.zipWith pathPiece leaves pieces = pieces := by
  induction leaves generalizing pieces with
  | nil => exact (List.eq_nil_of_length_eq_zero hlength.symm).symm
  | cons leaf leaves ih =>
    cases pieces with
    | nil => cases hlength
    | cons piece pieces =>
      obtain ⟨hpiece, hpieces⟩ := List.forall_mem_cons.mp hplain
      rw [List.zipWith_cons_cons, pathPiece_of_isPlain hpiece,
        ih (Nat.succ.inj hlength) hpieces]

/--
As a text and as part of a path an expression fails alike, and a text that is plain is the same as
part of a path. In general the text is cut into what the leaves contribute: those pieces that are
literals are marked in the path, the others are stripped of markers.
-/
theorem path_marks_leaves (expr : Expr) (request : Request) :
    (∀ error, expr.evalPath request = .error error ↔ expr.evalText request = .error error) ∧
    (∀ text path, expr.evalText request = .ok text → expr.evalPath request = .ok path →
      Marker.IsPlain text → path = text) ∧
    (∀ leaf ∈ expr.leaves, ∀ parts, leaf ≠ .concat parts) ∧
    ∀ text path, expr.evalText request = .ok text ∧ expr.evalPath request = .ok path ↔
      ∃ pieces, List.Forall₂ (fun leaf piece => leaf.evalText request = .ok piece)
          expr.leaves pieces ∧
        text = String.join pieces ∧
        path = String.join (List.zipWith pathPiece expr.leaves pieces) := by
  simp only [← mapM_eq_ok_iff]
  have hleaves : ∀ leaf ∈ expr.leaves, ∀ parts, leaf ≠ .concat parts :=
    fun leaf hleaf => not_concat_of_mem_leaves expr hleaf
  rcases readings_of_leaves expr request with
    ⟨error, hpieces, htext, hpath⟩ | ⟨pieces, hpieces, htext, hpath⟩
  · rw [hpieces, htext, hpath]
    exact ⟨fun _ => Iff.rfl, by simp, hleaves, by simp⟩
  · have hlength := (mapM_eq_ok_iff.mp hpieces).length_eq
    rw [hpieces, htext, hpath]
    refine ⟨by simp, ?_, hleaves, ?_⟩
    · intro text path hjoined hmarked hplain
      cases hjoined
      cases hmarked
      rw [zipWith_pathPiece hlength fun piece hpiece => hplain.of_mem_join hpiece]
    · intro text path
      constructor
      · rintro ⟨hjoined, hmarked⟩
        exact ⟨pieces, rfl, (Except.ok.inj hjoined).symm, (Except.ok.inj hmarked).symm⟩
      · rintro ⟨found, hfound, rfl, rfl⟩
        obtain rfl := Except.ok.inj hfound
        exact ⟨rfl, rfl⟩

/--
A title with a slash and a marker within a concatenation in another one: its slash stays and its
marker goes, while slash and star of the literal become markers. The title of the other request is
plain, and so is the text of the inner concatenation. With a flag in place of the number both
readings fail.
-/
theorem path_marks_leaves_of_slashes :
    let request (title : String) : Request := {
      file := { id := 1, path := "" }
      anime := [{ id := 1, preferredTitle := title, kind := .movie }]
      episodes := [] }
    let named : Expr := .concat [.label (.text .animeTitlePreferred), .text "-"]
    let expr (last : Expr) : Expr := .concat [.text "S/*", named, last]
    let numbered := expr (.number 7)
    let error : EvalError := .typeMismatch "true" .text .flag
    ((expr (.flag true)).evalText (request "A") = .error error ∧
      (expr (.flag true)).evalPath (request "A") = .error error) ∧
    (Marker.IsPlain "A-" ∧ named.evalText (request "A") = .ok "A-" ∧
      ∀ path, named.evalPath (request "A") = .ok path → path = "A-") ∧
    ∃ pieces, List.Forall₂ (fun leaf piece => leaf.evalText (request "A/\uE000") = .ok piece)
        numbered.leaves pieces ∧
      "S/*A/\uE000-7" = String.join pieces ∧
      "S\uE000\uE001A/-7" = String.join (List.zipWith pathPiece numbered.leaves pieces) := by
  intro request named expr numbered error
  have hplain : Marker.IsPlain "A-" := by decide +kernel
  have hnamed : named.evalText (request "A") = .ok "A-" := by decide +kernel
  have hfails : (expr (.flag true)).evalText (request "A") = .error error := by decide +kernel
  refine ⟨⟨hfails, ?_⟩, ⟨hplain, hnamed, fun path hpath => ?_⟩, ?_⟩
  · exact ((path_marks_leaves (expr (.flag true)) (request "A")).1 error).mpr hfails
  · exact (path_marks_leaves named (request "A")).2.1 "A-" path hnamed hpath hplain
  · exact ((path_marks_leaves numbered (request "A/\uE000")).2.2.2 _ _).mp
      ⟨by decide +kernel, by decide +kernel⟩

end Expr

end MediaNaming
