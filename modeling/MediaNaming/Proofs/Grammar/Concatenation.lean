import MediaNaming.Proofs.Grammar.Completeness.Statements
import MediaNaming.Proofs.Grammar.Soundness
import MediaNaming.Proofs.Lexing.Gaps
import MediaNaming.Proofs.Lexing.Lexemes
import MediaNaming.Proofs.Printing.Programs

/-!
# Scripts one after the other

A line with a semicolon between two scripts makes one script of them, with the statements of both.
The new line ends the last token and a comment, and the semicolon ends what a statement has left
open.
-/

namespace MediaNaming

/-! ## Tokens -/

namespace Lexer

/-- The text is cut into tokens of these kinds wherever it stands. -/
def CutsInto (cs : List Char) (ks : List TokenKind) : Prop :=
  ∀ p, ∃ list, tokensFrom p cs = .ok list ∧ list.tokens.map Token.kind = ks

section Tokens

variable {p : Position} {cs tail : List Char} {list : TokenList} {ks : List TokenKind}

theorem separates_of_startsLine (h : StartsLine tail) : Printing.Separates tail := by
  intro d hd
  cases h d hd
  decide

/-- What stands in a new line is cut into the same tokens as without the text before it. -/
theorem cutsInto_append (h : tokensFrom p cs = .ok list) (hline : StartsLine tail)
    (htail : CutsInto tail ks) : CutsInto (cs ++ tail) (list.tokens.map Token.kind ++ ks) := by
  fun_induction tokensFrom p cs generalizing list with
  | case1 => cases h
  | case2 p cs q hskip =>
    cases h
    intro r
    obtain ⟨r', hmoved⟩ := skipTrivia_append_of_end hskip hline p r
    obtain ⟨behind, hbehind, hkinds⟩ := htail r'
    exact ⟨behind, (Printing.tokensFrom_congr hmoved).trans hbehind, hkinds⟩
  | case3 p cs q c rest hskip ih =>
    obtain ⟨taken, htaken, hrest⟩ := bind_eq_ok_iff.mp h
    obtain ⟨more, hmore, hreturn⟩ := bind_eq_ok_iff.mp hrest
    cases hreturn
    intro r
    obtain ⟨r', hmoved⟩ := skipTrivia_append_of_token hskip hline p r
    obtain ⟨other, hother, hkind, hbehind⟩ :=
      (cuts_token c).appends q r' rest taken tail (separates_of_startsLine hline) htaken
    obtain ⟨all, hall, hkinds⟩ := ih taken hmore other.value.2
    rw [← hbehind] at hall
    refine ⟨⟨⟨other.value.1, r'⟩ :: all.tokens, all.stop⟩, ?_, ?_⟩
    · rw [Printing.tokensFrom_of_token hmoved hother, hall]
      rfl
    · rw [List.map_cons, List.map_cons, hkinds, hkind]
      rfl

/-- A text is cut into the same tokens wherever it stands. -/
theorem cutsInto_of_tokensFrom (h : tokensFrom p cs = .ok list) :
    CutsInto cs (list.tokens.map Token.kind) := by
  have hnone : CutsInto [] [] := fun q => ⟨⟨[], q⟩, Printing.tokensFrom_of_end rfl, rfl⟩
  have hcuts := cutsInto_append h (fun _ hd => absurd hd (by simp)) hnone
  rwa [List.append_nil, List.append_nil] at hcuts

theorem cutsInto_line (h : CutsInto cs ks) : CutsInto ('\n' :: cs) ks := fun p => by
  rw [Printing.tokensFrom_of_blank (by decide)]
  exact h _

/-- A line with a semicolon in front of a text is one more token. -/
theorem cutsInto_semicolon (h : CutsInto cs ks) :
    CutsInto ('\n' :: ';' :: '\n' :: cs) (.punctuation .semicolon :: ks) := by
  have hseparates : Printing.Separates ('\n' :: cs) :=
    separates_of_startsLine fun _ hd => (Option.some.inj hd).symm
  exact cutsInto_line fun p =>
    Printing.tokensFrom_of_cutsOff (Printing.cutsOff_punctuation .semicolon hseparates)
      (cutsInto_line h) p

end Tokens

end Lexer

/-! ## Statements -/

namespace Grammar

section Sequences

variable {closing ks js : List TokenKind} {first more : List Statement} {ending last : Ending}

theorem sequence_semicolons (h : (Clause.sequence closing).Spells ks first ending) (m : Nat) :
    (Clause.sequence closing).Spells (semicolons m ++ ks) first .closed := by
  cases h with
  | finish n =>
    rw [← List.append_assoc, semicolons, semicolons, List.replicate_append_replicate]
    exact .finish (m + n)
  | next n hnext hstatement hmore =>
    rw [← List.append_assoc, semicolons, semicolons, List.replicate_append_replicate]
    exact .next (m + n) hnext hstatement hmore

/-- Statements may follow on a script behind a semicolon, where no operand is taken in. -/
theorem sequence_append (hfirst : (Clause.sequence []).Spells ks first ending)
    (hmore : (Clause.sequence closing).Spells js more last) :
    (Clause.sequence closing).Spells (ks ++ .punctuation .semicolon :: js) (first ++ more)
      .closed := by
  induction first generalizing ks ending with
  | nil =>
    cases hfirst with
    | finish n =>
      rw [List.append_nil]
      exact sequence_semicolons (sequence_semicolons hmore 1) n
  | cons statement first ih =>
    cases hfirst with
    | @next ks₁ ks₂ _ _ _ ending _ n hnext hstatement hrest =>
      rw [List.append_assoc, List.append_assoc]
      refine .next n (fun hoperand k hk => ?_) hstatement (ih hrest)
      cases ks₂ with
      | nil =>
        cases hk
        rfl
      | cons k₂ ks₂ => exact hnext hoperand k hk

end Sequences

end Grammar

/-! ## Scripts -/

namespace Program

open Lexer Grammar

/--
Two scripts with a line between them that holds a semicolon are read as one script, with the
statements of the first and then those of the second.
-/
theorem parse_append {first second : String} {program other : Program}
    (hfirst : Program.parse first = .ok program) (hsecond : Program.parse second = .ok other) :
    Program.parse (first ++ "\n;\n" ++ second) =
      .ok ⟨program.statements ++ other.statements⟩ := by
  obtain ⟨list, hlist, hrest⟩ := bind_eq_ok_iff.mp hfirst
  obtain ⟨statements, hstatements, hreturn⟩ := bind_eq_ok_iff.mp hrest
  cases hreturn
  obtain ⟨list', hlist', hrest'⟩ := bind_eq_ok_iff.mp hsecond
  obtain ⟨statements', hstatements', hreturn'⟩ := bind_eq_ok_iff.mp hrest'
  cases hreturn'
  -- The tokens of both scripts are cut off as before, with those of the line between them.
  have hline : StartsLine ('\n' :: ';' :: '\n' :: second.toList) :=
    fun _ hd => (Option.some.inj hd).symm
  obtain ⟨all, hall, hkinds⟩ :=
    cutsInto_append hlist hline (cutsInto_semicolon (cutsInto_of_tokensFrom hlist')) .start
  obtain ⟨ending, hspells⟩ := spells_of_statements list.stop hstatements
  obtain ⟨ending', hspells'⟩ := spells_of_statements list'.stop hstatements'
  have htokenize : Lexer.tokenize (first ++ "\n;\n" ++ second) = .ok all := by
    have hseam : "\n;\n".toList = ['\n', ';', '\n'] := by decide
    rw [Lexer.tokenize, String.toList_append, String.toList_append, hseam, List.append_assoc]
    exact hall
  have hspellsAll := sequence_append hspells hspells'
  rw [← hkinds] at hspellsAll
  rw [Program.parse, htokenize, ok_bind, statements_of_spells all.stop hspellsAll]
  rfl

/-- The program of a script is one with the given text, if reading and printing give this text. -/
theorem exists_of_print {script text : String}
    (h : (Program.parse script).toOption.map print = some text) :
    ∃ program, Program.parse script = .ok program ∧ program.print = text :=
  exists_of_toOption_map h

/--
The first script ends within a comment, behind a chain of filters in an `if` without an `else`, and
the second one starts with what could be another operand.
-/
theorem parse_append_of_openEnd :
    let first := "if (Restricted) add AnimeTitles has English // and"
    let second := "'x' /* else */"
    ∃ program other : Program,
      program.print = "if ( Restricted ) \x7b add AnimeTitles has English ; \x7d ; " ∧
      other.print = "add 'x' ; " ∧
      Program.parse first = .ok program ∧ Program.parse second = .ok other ∧
      Program.parse (first ++ "\n;\n" ++ second) =
        .ok ⟨program.statements ++ other.statements⟩ := by
  intro first second
  have htext : (Program.parse first).toOption.map print =
      some "if ( Restricted ) \x7b add AnimeTitles has English ; \x7d ; " := by decide +kernel
  have htext' : (Program.parse second).toOption.map print = some "add 'x' ; " := by decide +kernel
  obtain ⟨program, hfirst, hprint⟩ := exists_of_print htext
  obtain ⟨other, hsecond, hprint'⟩ := exists_of_print htext'
  exact ⟨program, other, hprint, hprint', hfirst, hsecond, parse_append hfirst hsecond⟩

end Program

end MediaNaming
