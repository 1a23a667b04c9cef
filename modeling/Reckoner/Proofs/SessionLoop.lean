import Reckoner.Proofs.Blanks
import Reckoner.Proofs.Prints
import Reckoner.Proofs.SessionSteps

/-!
# Runs of a session

A session reads up to the first read that stops it and handles each line in front of that.  Nothing
else ends it but a line with a value that cannot be written; without such a line the whole run is
put together from the answers to its lines.

## Key results

- `failure_handle`: what a line can break off for
- `loop_of_stops`, `loop_of_goes_on`: one turn of the loop
- `failure_run_eq_some_iff`: when a session breaks off
- `run_of_failure_eq_none`: a session that does not
- `run_transcript`: every session with a number of places that can be had
-/

namespace Reckoner

/-- Why a session breaks off with an answer, if it does. -/
def Reply.failure? (r : Reply) : Option Number.PlacesError :=
  match r.outcome with
  | .broken e => some e
  | .goOn | .finish => none

/-- `failure?` finds what a session breaks off with. -/
theorem Reply.failure?_eq_some_iff (r : Reply) (e : Number.PlacesError) :
    r.failure? = some e ↔ r.outcome = .broken e := by
  rw [failure?]
  cases r.outcome <;> simp

namespace Session

variable (s : Session)

/-! ## What comes of a line -/

/-- `request` does not see the end of a line. -/
theorem request_stripLineEnd (text : String) : request (Text.stripLineEnd text) = request text := by
  rw [request, Text.strip_stripLineEnd]
  rfl

/-- `handle` ends a session if the line asks to quit. -/
theorem outcome_handle_eq_finish_iff (line : String) :
    (s.handle line).2.outcome = .finish ↔ request line = .quit := by
  rw [handle]
  cases request line with
  | quit => simp
  | calculate text =>
    simp only [calculate, reduceCtorEq, iff_false]
    split <;> simp
  | blank | help | history => simp

/-- `handle` breaks a session off if the line is run and `showResult` ends early. -/
theorem failure_handle (line : String) :
    (s.handle line).2.failure? =
      match request line with
      | .calculate _ => (Line.showResult s.settings.output (Line.run line)).failure
      | _ => none := by
  rw [handle]
  cases request line with
  | calculate text =>
    simp only [calculate, Reply.failure?]
    cases (Line.showResult s.settings.output (Line.run line)).failure <;> rfl
  | blank | quit | help | history => rfl

/-- `handle` lets a session go on that the line neither ends nor breaks off. -/
theorem outcome_handle_of_goes_on {line : String} (hquit : request line ≠ .quit)
    (hfailure : (s.handle line).2.failure? = none) : (s.handle line).2.outcome = .goOn := by
  -- The two other outcomes are those that are excluded.
  cases houtcome : (s.handle line).2.outcome with
  | goOn => rfl
  | finish => exact absurd ((outcome_handle_eq_finish_iff s line).mp houtcome) hquit
  | broken e =>
    rw [(Reply.failure?_eq_some_iff _ e).mpr houtcome] at hfailure
    cases hfailure

/-! ## Reads -/

/-- Whether a read stops the `loop`: at an interrupt, at the end of the input, or at a line that
asks for it. -/
def Read.stops : Read → Bool
  | .interrupt => true
  | .line text => text == "" || Text.strip text == "quit" || Text.strip text == "exit"

/-- The text that a read returns, if it returns one. -/
def Read.text? : Read → Option String
  | .interrupt => none
  | .line text => some text

/-- The lines that the `loop` handles without an end: those in front of the read that stops it. -/
def handled (reads : List Read) : List String :=
  (reads.takeWhile fun r => !r.stops).filterMap fun r => r.text?.map Text.stripLineEnd

/-- No line is `handled` behind a read that stops a session. -/
theorem handled_cons_of_stops {r : Read} (h : r.stops) (rest : List Read) :
    handled (r :: rest) = [] := by
  rw [handled, List.takeWhile_cons_of_neg (by simp [h])]
  rfl

/-- A line that does not stop a session is `handled`, without its end. -/
theorem handled_cons_of_goes_on {text : String} (h : (Read.line text).stops = false)
    (rest : List Read) : handled (.line text :: rest) = Text.stripLineEnd text :: handled rest := by
  rw [handled, List.takeWhile_cons_of_pos (by simp [h])]
  rfl

/-- What `handle` answers to lines, one behind the other. -/
def replies (s : Session) : List String → List Reply
  | [] => []
  | line :: lines => (s.handle line).2 :: (s.handle line).1.replies lines

/-! ## One turn of the loop -/

/-- `handle` leaves the prompt as it is. -/
theorem promptPrint_handle (line : String) : (s.handle line).1.promptPrint = s.promptPrint := by
  rw [promptPrint, settings_handle]
  rfl

/-- `loop` prints the prompt for a read that stops it, and nothing else. -/
theorem loop_of_stops {r : Read} (h : r.stops) (rest : List Read) :
    s.loop (r :: rest) = ⟨s, [s.promptPrint], [], rest, none⟩ := by
  -- An interrupt, the end of the input, and a line that asks for the end.
  cases r with
  | interrupt => rfl
  | line text =>
    rw [loop]
    split
    next => rfl
    next hempty =>
      -- What is left is a line that asks to quit, to which nothing is answered.
      have hquit : request (Text.stripLineEnd text) = .quit := by
        rw [request_stripLineEnd, request_eq_quit_iff]
        simpa [Read.stops, ← String.isEmpty_iff, hempty] using h
      have hhandle : s.handle (Text.stripLineEnd text) = (s, { outcome := .finish }) := by
        rw [handle, hquit]
      rw [hhandle]

/-- A read that does not stop a session is a line that does not ask to quit. -/
theorem exists_line_of_goes_on {r : Read} (h : r.stops = false) :
    ∃ text, r = .line text ∧ text ≠ "" ∧ request (Text.stripLineEnd text) ≠ .quit := by
  cases r with
  | interrupt => cases h
  | line text =>
    simp only [Read.stops, Bool.or_eq_false_iff, beq_eq_false_iff_ne] at h
    refine ⟨text, rfl, h.1.1, fun hquit => ?_⟩
    rw [request_stripLineEnd, request_eq_quit_iff] at hquit
    exact hquit.elim h.1.2 h.2

section GoesOn

variable {s} {text : String} (h : (Read.line text).stops = false) (rest : List Read)
include h

/-- `loop` goes on behind a line that neither stops it nor breaks it off. -/
theorem loop_of_goes_on {line : String} (hline : Text.stripLineEnd text = line)
    (hfailure : (s.handle line).2.failure? = none) :
    s.loop (.line text :: rest) =
      let t := (s.handle line).1.loop rest
      { t with
        prints := s.promptPrint :: (s.handle line).2.prints ++ t.prints
        log := (s.handle line).2.log ++ t.log } := by
  -- The line is not empty and does not ask to quit, so that its outcome decides.
  obtain ⟨_, htext, hne, hquit⟩ := exists_line_of_goes_on h
  cases htext
  rw [hline] at hquit
  rw [loop, if_neg (by simpa using hne), hline]
  simp only [outcome_handle_of_goes_on s hquit hfailure]

/-- `loop` ends behind a line that breaks it off. -/
theorem loop_of_breaks {line : String} (hline : Text.stripLineEnd text = line)
    {e : Number.PlacesError} (hfailure : (s.handle line).2.failure? = some e) :
    s.loop (.line text :: rest) =
      ⟨(s.handle line).1, s.promptPrint :: (s.handle line).2.prints, (s.handle line).2.log, rest,
        some e⟩ := by
  obtain ⟨_, htext, hne, _⟩ := exists_line_of_goes_on h
  cases htext
  rw [loop, if_neg (by simpa using hne), hline]
  simp only [(Reply.failure?_eq_some_iff _ e).mp hfailure]

end GoesOn

/-! ## Runs -/

/-- `loop` breaks off with the first of its lines that does so. -/
theorem failure_loop (reads : List Read) :
    (s.loop reads).failure = (s.replies (handled reads)).findSome? Reply.failure? := by
  -- On the reads, each of which is one turn of the loop.
  induction reads generalizing s with
  | nil => rfl
  | cons r rest ih =>
    cases h : r.stops with
    | true =>
      rw [loop_of_stops s h, handled_cons_of_stops h]
      rfl
    | false =>
      obtain ⟨text, rfl, _, _⟩ := exists_line_of_goes_on h
      rw [handled_cons_of_goes_on h, replies, List.findSome?_cons]
      -- Behind a line that goes on the rest decides, and one that breaks off comes first.
      cases hfailure : (s.handle (Text.stripLineEnd text)).2.failure? with
      | none => rw [loop_of_goes_on h rest rfl hfailure, ih]
      | some e => rw [loop_of_breaks h rest rfl hfailure]

/-- What comes of a session that answers all its lines: the prompt in front of each answer, and once
more for the read that stops it, and at the end a fresh line. -/
def transcript (s : Session) (reads : List Read) : Transcript :=
  let lines := handled reads
  { session := s.after lines
    prints := (s.replies lines).flatMap (fun r => s.promptPrint :: r.prints) ++
      [s.promptPrint, .line .plain ""]
    log := step "REPL started" :: (s.replies lines).flatMap Reply.log ++
      [step ("REPL finished after " ++ toString (s.after lines).history.length ++ " line(s)")]
    unread := (reads.dropWhile fun r => !r.stops).tail
    failure := none }

/-- `loop` without a break, put together from the answers to its lines. -/
theorem loop_of_failure_eq_none {reads : List Read} (h : (s.loop reads).failure = none) :
    s.loop reads =
      { session := s.after (handled reads)
        prints := (s.replies (handled reads)).flatMap (fun r => s.promptPrint :: r.prints) ++
          [s.promptPrint]
        log := (s.replies (handled reads)).flatMap Reply.log
        unread := (reads.dropWhile fun r => !r.stops).tail
        failure := none } := by
  -- On the reads again; each line adds its answer in front of those behind it.
  induction reads generalizing s with
  | nil => rfl
  | cons r rest ih =>
    cases hstops : r.stops with
    | true =>
      rw [loop_of_stops s hstops, handled_cons_of_stops hstops,
        List.dropWhile_cons_of_neg (by simp [hstops])]
      rfl
    | false =>
      obtain ⟨text, rfl, _, _⟩ := exists_line_of_goes_on hstops
      rw [handled_cons_of_goes_on hstops, List.dropWhile_cons_of_pos (by simp [hstops])]
      cases hfailure : (s.handle (Text.stripLineEnd text)).2.failure? with
      | some e =>
        rw [loop_of_breaks hstops rest rfl hfailure] at h
        cases h
      | none =>
        rw [loop_of_goes_on hstops rest rfl hfailure] at h ⊢
        rw [ih _ h]
        -- The prompt is the same behind the line, as it is part of the settings.
        simp only [replies, after_cons, List.flatMap_cons, promptPrint_handle, List.append_assoc]

/-- `run` breaks off as its `loop` does. -/
theorem failure_run (reads : List Read) : (s.run reads).failure = (s.loop reads).failure := by
  rw [run]
  cases (s.loop reads).failure <;> rfl

/-- `run` without a break is the `transcript`. -/
theorem run_of_failure_eq_none {reads : List Read} (h : (s.run reads).failure = none) :
    s.run reads = s.transcript reads := by
  rw [failure_run] at h
  rw [run, loop_of_failure_eq_none s h]
  simp only [transcript, List.append_assoc, List.cons_append, List.nil_append]

/-- What holds of the answer to each line, whatever the history, holds of all `replies`. -/
theorem forall₂_replies {R : String → Reply → Prop} {lines : List String}
    (h : ∀ s' : Session, s'.settings = s.settings → ∀ line ∈ lines, R line (s'.handle line).2) :
    List.Forall₂ R lines (s.replies lines) := by
  -- On the lines; the settings are the same behind each of them.
  induction lines generalizing s with
  | nil => exact .nil
  | cons line lines ih =>
    refine .cons (h s rfl line List.mem_cons_self) (ih _ fun s' hs' line' hline' => ?_)
    exact h s' (hs'.trans (settings_handle s line)) line' (List.mem_cons_of_mem _ hline')

/-! ## Breaking off -/

/-- Whether a line breaks a session off does not depend on the `replies` in front of it. -/
theorem findSome?_replies (lines : List String) :
    (s.replies lines).findSome? Reply.failure? =
      lines.findSome? fun line => (s.handle line).2.failure? := by
  induction lines generalizing s with
  | nil => rfl
  | cons line lines ih =>
    -- Only the settings matter, and lines leave these alone.
    have hcongr : (fun line' => ((s.handle line).1.handle line').2.failure?) =
        fun line' => (s.handle line').2.failure? := by
      funext line'
      rw [failure_handle, failure_handle, settings_handle]
    rw [replies, List.findSome?_cons, List.findSome?_cons, ih, hcongr]

/-- `run` breaks off if something is wrong with the places and a line has a finite value. -/
theorem failure_run_eq_some_iff (reads : List Read) (e : Number.PlacesError) :
    (s.run reads).failure = some e ↔
      s.settings.output.precision.bind Number.placesError? = some e ∧
        ∃ line ∈ handled reads, Text.strip line ≠ "" ∧ Text.strip line ∉ commands ∧
          ∃ v ∈ (Line.run line).values, Number.IsFinite v := by
  rw [failure_run, failure_loop, findSome?_replies]
  refine findSome?_eq_some_iff_of_same (fun line _ e => ?_) e
  rw [failure_handle]
  cases hrequest : request line with
  | calculate text =>
    obtain ⟨rfl, hne, hcommand⟩ := (request_eq_calculate_iff line text).mp hrequest
    simp only [Line.failure_showResult_eq_some_iff, hne, hcommand, ne_eq, not_false_eq_true,
      true_and]
  | blank | quit | help | history =>
    -- A line that is not run cannot break off, and its text is none of those asked for.
    refine ⟨nofun, fun ⟨_, hne, hcommand, _⟩ => ?_⟩
    have hcalculate := (request_eq_calculate_iff line _).mpr ⟨rfl, hne, hcommand⟩
    rw [hrequest] at hcalculate
    cases hcalculate

/-- `run` with a number of places that can be had is the `transcript`: it reads up to the read that
stops it and answers each line in front of that.  A line that holds nothing but its end stops
nothing, and `handle` makes nothing of it. -/
theorem run_transcript (hplaces : ∀ p ∈ s.settings.output.precision, 0 ≤ p ∧ p ≤ 2147483647)
    (reads : List Read) :
    s.run reads = s.transcript reads ∧
      ∀ text, text ≠ "" → (∀ c ∈ text.toList, c = '\n' ∨ c = '\r') →
        (Read.line text).stops = false ∧ s.handle (Text.stripLineEnd text) = (s, {}) := by
  constructor
  · refine run_of_failure_eq_none s ?_
    -- Nothing is wrong with these places.
    have hnone : s.settings.output.precision.bind Number.placesError? = none := by
      cases hp : s.settings.output.precision with
      | none => rfl
      | some p =>
        obtain ⟨hnonneg, hle⟩ := hplaces p hp
        rw [Option.bind_some, Number.placesError?, if_neg (by omega), if_neg (by omega)]
    rw [Option.eq_none_iff_forall_ne_some]
    intro e he
    rw [failure_run_eq_some_iff, hnone] at he
    cases he.1
  · intro text hne hends
    have hblank : Text.strip text = "" :=
      (Text.strip_eq_empty_iff text).mpr fun c hc => Text.isBlank_of_lineEnd (hends c hc)
    refine ⟨by simp [Read.stops, hne, hblank], ?_⟩
    rw [handle, request_stripLineEnd, (request_eq_blank_iff text).mpr hblank]

/-- `run_transcript` for a line that ends too soon, with more than one end, then a blank one and one
that quits. -/
theorem run_transcript_quit :
    let s : Session := { settings := { output := { precision := some 2 } } }
    let reads := [.line " 1+\r\n\n", .line "\n", .line "exit ", .line "3\n"]
    (∀ p ∈ s.settings.output.precision, 0 ≤ p ∧ p ≤ 2147483647) ∧
      s.run reads = s.transcript reads ∧ (s.run reads).session.history = ["1+"] ∧
      (s.run reads).unread = [.line "3\n"] ∧
      (Read.line "\n").stops = false ∧ s.handle (Text.stripLineEnd "\n") = (s, {}) := by
  intro s reads
  have hplaces : ∀ p ∈ s.settings.output.precision, 0 ≤ p ∧ p ≤ 2147483647 := by
    rintro p ⟨⟩
    decide
  obtain ⟨hrun, hends⟩ := run_transcript s hplaces reads
  have honly : ∀ c ∈ ['\n'], c = '\n' ∨ c = '\r' := List.forall_mem_singleton.mpr (Or.inl rfl)
  refine ⟨hplaces, hrun, ?_, ?_, hends "\n" (by decide) honly⟩
  · rw [hrun, transcript, after_eq]
    decide
  · rw [hrun]
    decide

end Session

end Reckoner
