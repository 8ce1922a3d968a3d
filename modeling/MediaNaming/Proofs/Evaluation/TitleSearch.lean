import MediaNaming.Proofs.Evaluation.Filters
import MediaNaming.Proofs.Text.Lowering

/-!
# Searching titles

A search of titles for a text compares lower cases. It finds every title that holds the text as it
is, unless a capital sigma of the text sees an end of it: such a sigma may have another form within
a title, and then the title is missed.
-/

namespace MediaNaming

theorem mem_matchingTitles {titles : List Title} {title : Title} {words : String} :
    title ∈ titles.filter (fun title => Text.contains (Text.lower title.text) (Text.lower words)) ↔
      title ∈ titles ∧
        Text.lowerChars words.toList <:+: Text.lowerChars title.text.toList := by
  rw [List.mem_filter, Text.contains_iff, Text.lower, Text.lower, String.toList_ofList,
    String.toList_ofList]

/-- A search of titles finds those whose lower case holds that of the text. -/
theorem eval_titleSearch {request : Request} {source wanted : Expr} {titles : List Title}
    {words : String} (hsource : source.eval request = .ok (.collection (.titles titles)))
    (hwanted : wanted.evalText request = .ok words) :
    ∃ kept, (Expr.has source [.text wanted]).eval request = .ok (.collection (.titles kept)) ∧
      ∀ title, title ∈ kept ↔ title ∈ titles ∧
        Text.lowerChars words.toList <:+: Text.lowerChars title.text.toList :=
  ⟨_, eval_has_text hsource hwanted, fun _ => mem_matchingTitles⟩

/-! ## Texts that searches miss -/

/-- A request about an anime with one title. -/
def titleRequest (title : Title) : Request :=
  { file := { id := 1, path := "a.mkv" }
    anime := [{ id := 1, preferredTitle := title.text, titles := [title], kind := .movie }]
    episodes := [] }

theorem eval_animeTitles (title : Title) :
    (Expr.label (.collection .animeTitles)).eval (titleRequest title) =
      .ok (.collection (.titles [title])) := rfl

/-- The sigma is final at the end of the text, but not in the title, where letters follow. -/
theorem title_search_can_miss :
    let title : Title := ⟨"ΑΣΤΡΟ", .greek, .official⟩
    let titles : Expr := .label (.collection .animeTitles)
    titles.eval (titleRequest title) = .ok (.collection (.titles [title])) ∧
      "ΑΣ".toList <:+: title.text.toList ∧
      (Expr.has titles [.text (.text "ΑΣ")]).eval (titleRequest title) =
        .ok (.collection (.titles [])) := by
  intro title titles
  exact ⟨eval_animeTitles title, by decide +kernel, by decide +kernel⟩

/-- If a sigma of the text is exposed, there is a title that holds the text and is missed. -/
theorem exists_missed_title {words : String} (h : Text.ExposesSigma words.toList) :
    ∃ title : Title, words.toList <:+: title.text.toList ∧
      ∀ kept, (Expr.has (.label (.collection .animeTitles)) [.text (.text words)]).eval
        (titleRequest title) = .ok (.collection (.titles kept)) → title ∉ kept := by
  obtain ⟨text, hpart, hmissed⟩ := Text.exists_not_infix_lowerChars h
  let title : Title := ⟨String.ofList text, .unknown, .plain⟩
  have htext : title.text.toList = text := String.toList_ofList
  have hwords : (Expr.text words).evalText (titleRequest title) = .ok words := rfl
  obtain ⟨found, hfound, hfinds⟩ := eval_titleSearch (eval_animeTitles title) hwords
  refine ⟨title, by rwa [htext], fun kept hkept hmem => hmissed ?_⟩
  obtain rfl : kept = found := by simpa using hkept.symm.trans hfound
  rw [← htext]
  exact ((hfinds title).mp hmem).2

/--
A search finds every title that holds the text just when no capital sigma of the text is exposed:
none sees an end of the text on one side, where a letter may come to stand in a title that decides
its form.
-/
theorem title_search_finds_iff (words : String) :
    (∀ (request : Request) (source wanted : Expr) (titles : List Title),
      source.eval request = .ok (.collection (.titles titles)) →
      wanted.evalText request = .ok words →
      ∃ kept, (Expr.has source [.text wanted]).eval request = .ok (.collection (.titles kept)) ∧
        ∀ title ∈ titles, words.toList <:+: title.text.toList → title ∈ kept) ↔
      ¬ Text.ExposesSigma words.toList := by
  constructor
  · intro hfinds hexposed
    obtain ⟨title, hpart, hmissed⟩ := exists_missed_title hexposed
    obtain ⟨kept, hkept, hfound⟩ := hfinds _ _ (.text words) _ (eval_animeTitles title) rfl
    exact hmissed kept hkept (hfound title (List.mem_singleton_self title) hpart)
  · intro hcovered request source wanted titles hsource hwanted
    obtain ⟨kept, hkept, hmem⟩ := eval_titleSearch hsource hwanted
    refine ⟨kept, hkept, fun title htitle hpart => ?_⟩
    exact (hmem title).mpr ⟨htitle, Text.infix_lowerChars hcovered hpart⟩

/-- A blank follows the first sigma of the text and a letter the second one, whatever the title. -/
theorem title_search_finds_iff_of_words :
    let title : Title := ⟨"ΝΕΟΣ ΑΣΤΗΡ", .greek, .official⟩
    let titles : Expr := .label (.collection .animeTitles)
    titles.eval (titleRequest title) = .ok (.collection (.titles [title])) ∧
      ¬ Text.ExposesSigma "ΟΣ ΑΣΤ".toList ∧
      ∃ kept, (Expr.has titles [.text (.text "ΟΣ ΑΣΤ")]).eval (titleRequest title) =
        .ok (.collection (.titles kept)) ∧ title ∈ kept := by
  intro title titles
  have hcovered : ¬ Text.ExposesSigma "ΟΣ ΑΣΤ".toList := by decide +kernel
  obtain ⟨kept, hkept, hfound⟩ := (title_search_finds_iff "ΟΣ ΑΣΤ").mpr hcovered
    (titleRequest title) titles (.text "ΟΣ ΑΣΤ") [title] (eval_animeTitles title) rfl
  refine ⟨eval_animeTitles title, hcovered, kept, hkept, ?_⟩
  exact hfound title (List.mem_singleton_self title) (by decide +kernel)

end MediaNaming
