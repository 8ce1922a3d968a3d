import MediaNaming.Proofs.Paths.Extensions

/-!
# Paths with another extension

A path that gets another extension keeps its directory and the stem of its name, and has that
extension; unless the old extension was all that made it name a file. So it is not the same path,
if its extension was another one.
-/

namespace MediaNaming.Path

/-! ## The same path -/

/-- What a path says: whether it starts at the root, and its components. -/
def normal (path : String) : Bool × List String :=
  (isAbsolute path, components path)

theorem fileName?_congr {path other : String} (h : normal path = normal other) :
    fileName? path = fileName? other := by
  unfold fileName?
  rw [(Prod.mk.inj h).2]

/-! ## What stands behind the name -/

section Tails

variable {cs front : List Char}

/-- A slash and what holds no components behind it add nothing. -/
theorem components_append_cons {tail : List Char} (h : components (String.ofList tail) = [])
    (cs : List Char) :
    components (String.ofList (cs ++ '/' :: tail)) = components (String.ofList cs) := by
  have hsplit : (String.ofList (cs ++ '/' :: tail)).toList =
      (String.ofList cs).toList ++ '/' :: (String.ofList tail).toList := by
    simp only [String.toList_ofList]
  rw [components_of_append hsplit, h, List.append_nil]

theorem components_append_slash (cs : List Char) :
    components (String.ofList (cs ++ ['/'])) = components (String.ofList cs) :=
  components_append_cons components_empty cs

theorem components_append_dot (cs : List Char) :
    components (String.ofList (cs ++ ['/', '.'])) = components (String.ofList cs) :=
  components_append_cons (by decide) cs

theorem dropTail_eq (cs : List Char) : dropTail cs = dropTail.dropTailRev cs.reverse := by
  unfold dropTail
  split
  · next rest h => rw [h, dropTail.dropTailRev]
  · next rest h => rw [h, dropTail.dropTailRev]
  · next hslash hdot =>
    rw [dropTail.dropTailRev, List.reverse_reverse]
    · exact hslash
    · exact hdot

theorem components_dropTail (cs : List Char) :
    components (String.ofList (dropTail cs)) = components (String.ofList cs) := by
  have hrev (cs : List Char) : components (String.ofList (dropTail.dropTailRev cs)) =
      components (String.ofList cs.reverse) := by
    fun_induction dropTail.dropTailRev cs with
    | case1 rest ih => rw [ih, List.reverse_cons, components_append_slash]
    | case2 rest ih =>
      rw [ih, List.reverse_cons, List.reverse_cons, List.append_assoc]
      exact (components_append_dot _).symm
    | case3 => rfl
  rw [dropTail_eq, hrev, List.reverse_reverse]

/-- The text ends neither in a slash nor in a dot behind one. -/
structure IsClosed (cs : List Char) : Prop where
  slash : ∀ front, cs ≠ front ++ ['/']
  dot : ∀ front, cs ≠ front ++ ['/', '.']

theorem isClosed_dropTail (cs : List Char) : IsClosed (dropTail cs) := by
  rw [dropTail_eq]
  fun_induction dropTail.dropTailRev cs.reverse with
  | case1 rest ih => exact ih
  | case2 rest ih => exact ih
  | case3 rest hslash hdot =>
    refine ⟨fun front h => hslash front.reverse ?_, fun front h => hdot front.reverse ?_⟩
    · rw [← List.reverse_reverse rest, h, List.reverse_append]
      rfl
    · rw [← List.reverse_reverse rest, h, List.reverse_append]
      rfl

end Tails

/-! ## Names at the end -/

/-- Nothing stands in front of a name, or a directory and a slash. -/
def IsFront (front : List Char) : Prop :=
  front = [] ∨ ∃ directory, front = directory ++ ['/']

section Names

variable {front last : List Char} {name path : String}

theorem IsFront.components_append (h : IsFront front) (last : List Char) :
    components (String.ofList (front ++ last)) =
      components (String.ofList front) ++ components (String.ofList last) := by
  rcases h with rfl | ⟨directory, rfl⟩
  · exact (congrArg (· ++ components (String.ofList last)) components_empty).symm
  · have hsplit : (String.ofList (directory ++ ['/'] ++ last)).toList =
        (String.ofList directory).toList ++ '/' :: (String.ofList last).toList := by
      simp
    rw [components_of_append hsplit, components_append_slash]

/-- Behind a front a name is the file name. -/
theorem IsFront.fileName?_eq (h : IsFront front) (hname : IsName name) :
    fileName? (String.ofList (front ++ name.toList)) = some name := by
  unfold fileName?
  rw [h.components_append, String.ofList_toList, hname.isPiece.components_eq hname.ne_dot,
    List.getLast?_concat]
  split
  · next heq => exact absurd (.inr (Option.some.inj heq)) hname.not_isDots
  · rfl

/-- Every text is cut behind its last slash. -/
theorem exists_front_append (cs : List Char) :
    ∃ front last, cs = front ++ last ∧ IsFront front ∧ '/' ∉ last := by
  by_cases hslash : '/' ∈ cs
  · obtain ⟨back, front, hreverse, hback⟩ :=
      List.eq_append_cons_of_mem (List.mem_reverse.mpr hslash)
    refine ⟨front.reverse ++ ['/'], back.reverse, ?_, .inr ⟨front.reverse, rfl⟩,
      fun h => hback (List.mem_reverse.mp h)⟩
    rw [← List.reverse_reverse cs, hreverse, List.reverse_append, List.reverse_cons]
  · exact ⟨[], cs, rfl, .inl rfl, hslash⟩

/-- What stands behind the last slash would be cut off if it were nothing or a dot. -/
theorem IsClosed.last_ne (h : IsClosed (front ++ last)) (hfront : IsFront front)
    (hne : components (String.ofList (front ++ last)) ≠ []) :
    String.ofList last ≠ "" ∧ String.ofList last ≠ "." := by
  rcases hfront with rfl | ⟨directory, rfl⟩
  · rw [List.nil_append] at hne
    refine ⟨fun hlast => hne ?_, fun hlast => hne ?_⟩ <;> rw [hlast] <;> decide
  · refine ⟨fun hlast => h.slash directory ?_, fun hlast => h.dot directory ?_⟩
    · rw [String.ofList_eq_empty_iff.mp hlast, List.append_nil]
    · obtain rfl : last = ['.'] := String.ofList_injective hlast
      exact List.append_assoc directory ['/'] ['.']

/-- Without what stands behind it, a path is a front and its file name. -/
theorem exists_front_of_fileName? (h : fileName? path = some name) :
    ∃ front, IsFront front ∧ dropTail path.toList = front ++ name.toList := by
  obtain ⟨front, last, htrunk, hfront, hlast⟩ := exists_front_append (dropTail path.toList)
  have hclosed := isClosed_dropTail path.toList
  have hname : (components (String.ofList (dropTail path.toList))).getLast? = some name := by
    rw [components_dropTail, String.ofList_toList]
    exact fileName?_eq_some h
  rw [htrunk] at hclosed hname
  have hsome : components (String.ofList (front ++ last)) ≠ [] := by
    intro hempty
    rw [hempty] at hname
    cases hname
  obtain ⟨hne, hdot⟩ := hclosed.last_ne hfront hsome
  have hpiece : IsPiece (String.ofList last) := ⟨hne, by rwa [String.toList_ofList]⟩
  rw [hfront.components_append, hpiece.components_eq hdot, List.getLast?_concat] at hname
  refine ⟨front, hfront, ?_⟩
  rw [htrunk, ← Option.some.inj hname, String.toList_ofList]

end Names

/-! ## Another extension -/

section Extension

variable {path extension : String} {name : List Char}

/-- The stem of a name begins it, and there is a stem if there is a name. -/
theorem splitExtension_fst (hne : name ≠ []) :
    (splitExtension name).1 ≠ [] ∧ (splitExtension name).1 ⊆ name := by
  cases hfound : (splitExtension name).2 with
  | none =>
    have hwhole : (splitExtension name).1 = name := by
      unfold splitExtension at hfound ⊢
      split
      · next hspan =>
        rw [hspan] at hfound
        split
        · rfl
        · next hstem => simp [hstem] at hfound
      · rfl
    rw [hwhole]
    exact ⟨hne, List.Subset.refl _⟩
  | some found =>
    obtain ⟨hdot, stem, hstem, rfl⟩ := eq_append_of_splitExtension hfound
    rw [splitExtension_append hstem hdot]
    exact ⟨hstem, List.subset_append_left _ _⟩

/-- A stem with an extension that holds something, but no dots and slashes, is a name. -/
theorem isName_append {stem : List Char} (hstem : '/' ∉ stem) (hne : extension ≠ "")
    (hdot : '.' ∉ extension.toList) (hslash : '/' ∉ extension.toList) :
    IsName (String.ofList (stem ++ '.' :: extension.toList)) where
  ne_empty := by simp
  slash_not_mem := by simp [hstem, hslash]
  not_isDots hdots := by
    have hall := eq_dot_of_isDots hdots
    obtain ⟨c, hc⟩ := List.exists_mem_of_ne_nil _ (mt String.toList_eq_nil_iff.mp hne)
    have hmem : c ∈ (String.ofList (stem ++ '.' :: extension.toList)).toList := by simp [hc]
    exact hdot (hall c hmem ▸ hc)

/-- The extension is put behind the stem, if without the old extension there is still a name. -/
theorem fileName?_withExtension {name : String} (hname : fileName? (cutExtension path) = some name)
    (hne : extension ≠ "") (hdot : '.' ∉ extension.toList) (hslash : '/' ∉ extension.toList) :
    fileName? (withExtension path extension) =
      some (String.ofList ((splitExtension name.toList).1 ++ '.' :: extension.toList)) := by
  obtain ⟨front, hfront, htrunk⟩ := exists_front_of_fileName? hname
  obtain ⟨hpiece, -⟩ := isPiece_of_fileName? hname
  obtain ⟨-, hsubset⟩ := splitExtension_fst (mt String.toList_eq_nil_iff.mp hpiece.ne_empty)
  have hnew := isName_append (fun h => hpiece.slash_not_mem (hsubset h)) hne hdot hslash
  have hpath : withExtension path extension = String.ofList (front ++
      (String.ofList ((splitExtension name.toList).1 ++ '.' :: extension.toList)).toList) := by
    unfold withExtension
    dsimp only
    rw [hname]
    dsimp only
    rw [htrunk, List.length_append, Nat.add_sub_cancel, List.take_left, String.toList_ofList,
      List.append_assoc]
  rw [hpath]
  exact hfront.fileName?_eq hnew

theorem extension_withExtension {name : String} (hname : fileName? (cutExtension path) = some name)
    (hne : extension ≠ "") (hdot : '.' ∉ extension.toList) (hslash : '/' ∉ extension.toList) :
    Path.extension (withExtension path extension) = String.ofList ('.' :: extension.toList) := by
  obtain ⟨hpiece, -⟩ := isPiece_of_fileName? hname
  obtain ⟨hstem, -⟩ := splitExtension_fst (mt String.toList_eq_nil_iff.mp hpiece.ne_empty)
  unfold Path.extension fileName
  rw [fileName?_withExtension hname hne hdot hslash, Option.getD_some, String.toList_ofList,
    splitExtension_append hstem hdot]

/-- With an extension that it does not have a path is another path. -/
theorem normal_withExtension_ne (hname : fileName? path ≠ none)
    (hother : Path.extension path ≠ String.ofList ('.' :: extension.toList)) (hne : extension ≠ "")
    (hdot : '.' ∉ extension.toList) (hslash : '/' ∉ extension.toList) :
    normal (withExtension path extension) ≠ normal path := by
  intro hsame
  have hfile := fileName?_congr hsame
  cases hcut : fileName? (cutExtension path) with
  | none =>
    -- The extension made the path name a file, as in `..x`, and now it names none.
    have hpath : withExtension path extension = cutExtension path := by
      unfold withExtension
      dsimp only
      rw [hcut]
    rw [hpath, hcut] at hfile
    exact hname hfile.symm
  | some name =>
    have hextension := extension_withExtension hcut hne hdot hslash
    unfold Path.extension fileName at hother hextension
    rw [hfile] at hextension
    exact hother hextension

end Extension

end MediaNaming.Path
