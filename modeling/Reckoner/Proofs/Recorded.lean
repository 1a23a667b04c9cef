import Reckoner.Proofs.Blanks
import Reckoner.Proofs.Joined
import Reckoner.Proofs.SessionSteps

/-!
# What is recorded of a line and what is run

A session records a line without the blanks around it, and runs it as it was entered.  This makes no
difference but to positions if the blanks are among those that may stand between tokens.  Any other
blank is foreign to a line, and fails it, even though nothing of it is left in what is recorded.

## Key results

- `run_blanks_around`: a line with blanks around it has the results of its text, further on
- `run_of_foreign_blank`: a line with another blank character cannot be scanned
- `handle_blanks_around`: what a session records of a line, and what it runs
-/

namespace Reckoner

namespace Line

/-- `run` of a line with blanks around it gives the results of its text, further on. -/
theorem run_blanks_around {line : String}
    (hleading : ∀ c ∈ Text.leading line, c ∈ Token.blanks)
    (htrailing : ∀ c ∈ Text.trailing line, c ∈ Token.blanks) :
    run line =
      { source := line
        tokens := (run (Text.strip line)).tokens.map (Token.shift (Text.leading line).length)
        terms := (run (Text.strip line)).terms.map
          (TermResult.relocate (Text.leading line).length line) } := by
  apply run_of_scan_shift
  -- The line is its text between what was stripped on both sides.
  have hline : line = String.ofList (Text.leading line) ++ Text.strip line ++
      String.ofList (Text.trailing line) := by
    rw [← String.toList_inj]
    simp only [String.toList_append, String.toList_ofList]
    exact Text.toList_eq_append line
  have hback : ∀ c ∈ (String.ofList (Text.trailing line)).toList, c ∈ Token.blanks := by
    rw [String.toList_ofList]
    exact htrailing
  have hfront : ∀ c ∈ (String.ofList (Text.leading line)).toList, c ∈ Token.blanks := by
    rw [String.toList_ofList]
    exact hleading
  -- The blanks behind drop out, and then those in front move what is left.
  have hscan := Token.scan_append_of_blanks hback
    (String.ofList (Text.leading line) ++ Text.strip line)
  rw [← hline, Token.scan_blanks_append hfront, String.length_ofList] at hscan
  exact hscan

/-- `run` of a line fails with a blank character in it that may not stand between tokens. -/
theorem run_of_foreign_blank {line : String} {c : Char} (hc : c ∈ line.toList)
    (hblank : Text.isBlank c) (hforeign : c ∉ Token.blanks) :
    ∃ e, run line = { source := line, tokens := [], terms := [.ofError line (.lex e)] } := by
  obtain ⟨e, h⟩ := Text.exists_scan_error_of_isBlank hc hblank hforeign
  exact ⟨e, run_of_scan_error h⟩

end Line

namespace Session

/-- `handle` records a line that is run without the blanks around it, but what it prints is what
comes of the line as it was entered.  If these blanks may stand between tokens, then `run` gives the
tokens of the recorded text further on, and term by term the trees and values are the same and
errors have moved.  If one of them may not, then what is wrong with the line is all that comes of
it, whatever would come of the recorded text. -/
theorem handle_blanks_around (s : Session) {line : String} (hne : Text.strip line ≠ "")
    (hcommand : Text.strip line ∉ commands) :
    let text := Text.strip line
    let stripped := Text.leading line ++ Text.trailing line
    let n := (Text.leading line).length
    line.toList = Text.leading line ++ text.toList ++ Text.trailing line ∧
      (∀ c ∈ stripped, Text.isBlank c) ∧
      (s.handle line).1.history = s.history ++ (if s.settings.history then [text] else []) ∧
      (s.handle line).2.prints = (Line.showResult s.settings.output (Line.run line)).prints ∧
      ((∀ c ∈ stripped, c ∈ Token.blanks) →
        Line.run line =
          { source := line
            tokens := (Line.run text).tokens.map (Token.shift n)
            terms := (Line.run text).terms.map (TermResult.relocate n line) }) ∧
      ((∃ c ∈ stripped, c ∉ Token.blanks) →
        ∃ e, Line.run line =
          { source := line, tokens := [], terms := [.ofError line (.lex e)] }) := by
  intro text stripped n
  -- Neither empty nor a command, the line is one to be run.
  have hrequest := (request_eq_calculate_iff line text).mpr ⟨rfl, hne, hcommand⟩
  have hline := Text.toList_eq_append line
  have hblank : ∀ c ∈ stripped, Text.isBlank c := by
    intro c hc
    rcases List.mem_append.mp hc with hc | hc
    · exact Text.isBlank_of_mem_leading hc
    · exact Text.isBlank_of_mem_trailing hc
  refine ⟨hline, hblank, ?_, ?_, ?_, ?_⟩
  · rw [handle_fst, recorded_singleton_of_calculate hrequest]
  · rw [handle, hrequest]
    rfl
  · intro hblanks
    obtain ⟨hleading, htrailing⟩ := List.forall_mem_append.mp hblanks
    exact Line.run_blanks_around hleading htrailing
  · rintro ⟨c, hc, hforeign⟩
    refine Line.run_of_foreign_blank ?_ (hblank c hc) hforeign
    -- What was stripped is in the line, in front of the text or behind it.
    rw [hline, List.append_assoc, List.mem_append, List.mem_append]
    rcases List.mem_append.mp hc with hc | hc
    · exact Or.inl hc
    · exact Or.inr (Or.inr hc)

/-- `handle_blanks_around` for a tab in front of a line that divides by zero and ends too soon, and
for a form feed behind a line of two numbers. -/
theorem handle_blanks_around_form_feed :
    (Text.strip "\t1/0 2*\r\n" ≠ "" ∧ Text.strip "\t1/0 2*\r\n" ∉ commands) ∧
      (handle {} "\t1/0 2*\r\n").1.history = ["1/0 2*"] ∧
      (Line.run "\t1/0 2*\r\n").tokens.map Token.pos = [1, 2, 3, 5, 6] ∧
      .ofError "\t1/0 2*\r\n" (.parse (.unexpectedEnd "number" (some 7))) ∈
        (Line.run "\t1/0 2*\r\n").terms ∧
      (Text.strip "3 4\x0c" ≠ "" ∧ Text.strip "3 4\x0c" ∉ commands) ∧
      (handle {} "3 4\x0c").1.history = ["3 4"] ∧
      (Line.run "3 4").tokens.map Token.pos = [0, 2] ∧
      ∃ e, Line.run "3 4\x0c" =
        { source := "3 4\x0c", tokens := [], terms := [.ofError "3 4\x0c" (.lex e)] } := by
  have htext : Text.strip "\t1/0 2*\r\n" = "1/0 2*" := by decide
  have htext' : Text.strip "3 4\x0c" = "3 4" := by decide
  have hrequest : Text.strip "\t1/0 2*\r\n" ≠ "" ∧ Text.strip "\t1/0 2*\r\n" ∉ commands := by
    rw [htext]
    decide
  have hrequest' : Text.strip "3 4\x0c" ≠ "" ∧ Text.strip "3 4\x0c" ∉ commands := by
    rw [htext']
    decide
  obtain ⟨_, _, hhistory, _, hmoved, _⟩ := handle_blanks_around {} hrequest.1 hrequest.2
  obtain ⟨_, _, hhistory', _, _, hforeign⟩ := handle_blanks_around {} hrequest'.1 hrequest'.2
  -- What is stripped on both sides, evaluated before it is looked up.
  have hstripped : Text.leading "\t1/0 2*\r\n" ++ Text.trailing "\t1/0 2*\r\n" =
      ['\t', '\r', '\n'] := by decide
  have hstripped' : Text.leading "3 4\x0c" ++ Text.trailing "3 4\x0c" = ['\x0c'] := by decide
  rw [hstripped] at hmoved
  rw [hstripped'] at hforeign
  have hrun := hmoved (by simp [Token.blanks])
  rw [htext] at hrun hhistory
  rw [htext'] at hhistory'
  have hscan : Token.scan "1/0 2*" = .ok [Token.ofNumeral ['1'] 0, Token.ofOperator .slash '/' 1,
      Token.ofNumeral ['0'] 2, Token.ofNumeral ['2'] 4, Token.ofOperator .star '*' 5] :=
    Token.scan_eq_ok_iff.mpr ⟨by decide, rfl⟩
  have hscan' : Token.scan "3 4" = .ok [Token.ofNumeral ['3'] 0, Token.ofNumeral ['4'] 2] :=
    Token.scan_eq_ok_iff.mpr ⟨by decide, rfl⟩
  have hfailure : (Expr.termsOf _).failure = some (.unexpectedEnd "number" (some 6)) :=
    (Expr.failure_termsOf (Token.valued_of_scan hscan)).trans rfl
  have hlast := (Line.mem_terms_of_scan_ok hscan _).mpr (Or.inr ⟨_, hfailure, rfl⟩)
  refine ⟨hrequest, hhistory, ?_, ?_, hrequest', hhistory', ?_, ?_⟩
  · rw [hrun, Line.run_of_scan_ok hscan]
    rfl
  · rw [hrun, List.mem_map]
    exact ⟨_, hlast, TermResult.relocate_ofError _ _ _ _⟩
  · rw [Line.run_of_scan_ok hscan']
    rfl
  · exact hforeign ⟨_, List.mem_singleton_self _, by decide⟩

end Session

end Reckoner
