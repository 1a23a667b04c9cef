import Reckoner.Session

/-!
# Steps of a session

What one line does to a session and what is answered to it, and what follows for any number of lines
one behind the other.  A line leaves nothing behind but its text in the history, and nothing that is
answered depends on the history but the answer to `history` itself.  That a line failed, or asked to
quit, changes nothing for those behind it.

## Key results

- `request_eq_calculate_iff`, `request_eq_history_iff`: what lines ask for
- `handle_fst`: what a line leaves behind
- `handle_snd_congr`: what the answer to a line depends on
- `after_isolated`: the history after any lines, and the answer to a line behind them
-/

namespace Reckoner.Session

/-! ## What a line asks for -/

/-- The texts that ask for something other than to be run. -/
def commands : List String := ["quit", "exit", "help", "history"]

/-- `request` asks for a text to be run unless it is empty or one of the `commands`. -/
theorem request_eq_calculate_iff (line text : String) :
    request line = .calculate text ↔ Text.strip line = text ∧ text ≠ "" ∧ text ∉ commands := by
  rw [request, commands]
  split
  case h_6 hblank hquit hexit hhelp hhistory =>
    simp only [Request.calculate.injEq]
    constructor
    · rintro rfl
      simp_all
    · exact And.left
  -- A line that asks for anything else is not run, and its text is one of those that are left out.
  all_goals
    rename_i h
    rw [h]
    refine ⟨nofun, ?_⟩
    rintro ⟨rfl, hblank, hcommand⟩
    simp at hblank hcommand

/-- `request` asks for the history if the text is `history`. -/
theorem request_eq_history_iff (line : String) :
    request line = .history ↔ Text.strip line = "history" := by
  rw [request]
  split <;> simp_all

/-- `request` asks to quit if the text is `quit` or `exit`. -/
theorem request_eq_quit_iff (line : String) :
    request line = .quit ↔ Text.strip line = "quit" ∨ Text.strip line = "exit" := by
  rw [request]
  split <;> simp_all

/-- `request` asks for nothing if nothing is left of the line. -/
theorem request_eq_blank_iff (line : String) : request line = .blank ↔ Text.strip line = "" := by
  rw [request]
  split <;> simp_all

/-! ## One line -/

/-- What lines leave in the history: the texts of those that are run. -/
def recorded (lines : List String) : List String :=
  (lines.map Text.strip).filter fun text => text ≠ "" ∧ text ∉ commands

/-- What is `recorded` of lines, the first apart from the others. -/
theorem recorded_cons (line : String) (lines : List String) :
    recorded (line :: lines) = recorded [line] ++ recorded lines := by
  rw [recorded, List.map_cons, ← List.singleton_append, List.filter_append]
  rfl

/-- A line that is run is `recorded` by its text. -/
theorem recorded_singleton_of_calculate {line text : String}
    (h : request line = .calculate text) : recorded [line] = [text] := by
  obtain ⟨rfl, htext⟩ := (request_eq_calculate_iff line text).mp h
  exact List.filter_cons_of_pos (decide_eq_true htext)

/-- A line that is not run is not `recorded`. -/
theorem recorded_singleton_of_not_calculate {line : String}
    (h : ∀ text, request line ≠ .calculate text) : recorded [line] = [] := by
  refine List.filter_cons_of_neg fun htext => h (Text.strip line) ?_
  exact (request_eq_calculate_iff line _).mpr ⟨rfl, of_decide_eq_true htext⟩

variable (s : Session) (line : String)

/-- `handle` adds the text of a line to the history if it is run, and changes nothing else. -/
theorem handle_fst :
    (s.handle line).1 =
      { s with
        history := s.history ++ if s.settings.history then recorded [line] else [] } := by
  -- Without anything to record, the session stays as it is.
  have hother (h : ∀ text, request line ≠ .calculate text) :
      s = { s with history := s.history ++
        if s.settings.history then recorded [line] else [] } := by
    rw [recorded_singleton_of_not_calculate h, ite_self, List.append_nil]
  rw [handle]
  cases h : request line with
  | calculate text =>
    rw [recorded_singleton_of_calculate h]
    show { s with history := _ } = _
    cases s.settings.history
    · rw [if_neg Bool.false_ne_true, if_neg Bool.false_ne_true, List.append_nil]
    · rw [if_pos rfl, if_pos rfl]
  | blank | quit | help | history => exact hother (by simp [h])

/-- `handle` leaves the settings as they are. -/
theorem settings_handle : (s.handle line).1.settings = s.settings := by
  rw [handle_fst]

/-- `handle` answers a line from the settings alone, unless the line asks for the history. -/
theorem handle_snd_congr {s s' : Session} (hsettings : s.settings = s'.settings) {line : String}
    (h : Text.strip line ≠ "history") : (s.handle line).2 = (s'.handle line).2 := by
  rw [handle, handle]
  cases hrequest : request line with
  | history => exact absurd ((request_eq_history_iff line).mp hrequest) h
  | calculate text =>
    simp only [calculate, hsettings]
  | blank | quit | help => rfl

/-- `historyLine` writes an entry behind its number, which is padded to four places. -/
theorem historyLine_eq (n : Nat) (entry : String) :
    historyLine n entry =
      String.ofList ((toString n).toList.leftpad 4 ' ') ++ "  " ++ entry := by
  rw [historyLine, List.leftpad, Nat.toString_eq_repr, Nat.toList_repr]

/-- `handle` answers `history` with the lines that were run, numbered from 1. -/
theorem handle_snd_of_history {line : String} (h : Text.strip line = "history") :
    (s.handle line).2 =
      { prints := (s.history.zipIdx 1).map fun (entry, n) =>
          .line .plain (String.ofList ((toString n).toList.leftpad 4 ' ') ++ "  " ++ entry) } := by
  rw [handle, (request_eq_history_iff line).mpr h, List.zipIdx_succ]
  simp only [List.map_map, Function.comp_def, historyLine_eq]

/-! ## Any number of lines -/

/-- A session after lines, whatever came of them. -/
def after (s : Session) (lines : List String) : Session :=
  lines.foldl (fun s line => (s.handle line).1) s

/-- What a session is `after` a line and others is what it is after the others behind that line. -/
theorem after_cons (lines : List String) :
    s.after (line :: lines) = (s.handle line).1.after lines := rfl

/-- A session `after` lines has their texts behind its history. -/
theorem after_eq (lines : List String) :
    s.after lines =
      { s with history := s.history ++ if s.settings.history then recorded lines else [] } := by
  -- On the lines, the first of which leaves its text in front of the others.
  induction lines generalizing s with
  | nil => simp [after, recorded]
  | cons line lines ih =>
    rw [after_cons, ih, handle_fst, recorded_cons line lines]
    simp only [List.append_assoc]
    cases s.settings.history <;> rfl

/-- Lines leave in the history the texts of those of them that are run, and `handle` answers a line
behind them as if it were the first, unless it asks for the history. -/
theorem after_isolated (settings : Settings) (lines : List String) (line : String) :
    let s := after { settings } lines
    let entries := if settings.history then recorded lines else []
    s.settings = settings ∧ s.history = entries ∧
      (s.handle line).2 =
        if Text.strip line = "history" then
          { prints := (entries.zipIdx 1).map fun (entry, n) =>
              .line .plain (String.ofList ((toString n).toList.leftpad 4 ' ') ++ "  " ++ entry) }
        else (handle { settings } line).2 := by
  intro s entries
  -- Whatever came of the lines, this is what is left of them.
  have hs : s = { settings, history := entries } := after_eq _ _
  have hsettings : s.settings = settings := congrArg Session.settings hs
  refine ⟨hsettings, congrArg Session.history hs, ?_⟩
  split
  next h => rw [handle_snd_of_history s h, hs]
  next h => exact handle_snd_congr hsettings h

end Reckoner.Session
