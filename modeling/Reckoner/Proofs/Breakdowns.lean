import Reckoner.Command.Run
import Reckoner.Proofs.LineShape
import Reckoner.Proofs.Places
import Reckoner.Proofs.SessionLoop

/-!
# Runs that break off

Settings and options admit numbers of places that are too large to write a value with.  Under such a
number a finite value breaks off the `Session.run` or the `Command.results` that it is a result of;
there is nothing else that does, and whatever does not break off is answered in full.

## Key results

- `terms_run_ne_nil`: a line that is not blank has results
- `resolved_of_nonneg`: what an evaluation comes to
- `Nonneg.fails_iff`: what can be wrong with a number of places that is admitted
- `breaks_off_iff_of_loaded`: what a session and an evaluation under loaded settings come to
-/

namespace Reckoner

/-! ## Results of a line -/

/-- `Line.run` has results for a line that is not blank. -/
theorem Line.terms_run_ne_nil {line : String} (h : Text.strip line ≠ "") :
    (Line.run line).terms ≠ [] := by
  cases hscan : Token.scan line with
  | error e =>
    rw [Line.run_of_scan_error hscan]
    exact List.cons_ne_nil _ _
  | ok tokens =>
    have hne : tokens ≠ [] := by
      rintro rfl
      exact h (Text.strip_eq_empty_of_scan_eq_nil hscan)
    rw [← List.length_pos_iff, Line.length_terms_run hscan, if_neg hne]
    omega

/-- `Line.run` of a single number has its value. -/
theorem Line.values_run_of_scan_single {source : String} {t : Token}
    (hscan : Token.scan source = .ok [t]) (hkind : t.kind = .number) {v : Float}
    (hv : t.value = some v) : (Line.run source).values = [v] := by
  have hinorder : [t].map Token.symbol = [Expr.literal v].flatMap Expr.inorder := by
    rw [List.map_singleton, Token.symbol_of_number hkind hv]
    rfl
  -- The parser is exact, so that the one tree with this token in order is the one that it reads.
  have hcanonical : Expr.Canonical [.literal v] :=
    ⟨List.forall_mem_singleton.mpr trivial, nofun⟩
  have hvalue : (Expr.literal v).evaluate = .ok v := Expr.evaluate_eq_value _
  rw [Line.run_of_scan_ok hscan, Expr.termsOf_of_inorder hcanonical hinorder]
  simp [LineResult.values, TermResult.value?_ofExpr_of_ok hvalue]

/-- `placesError?` finds nothing against a number of places that is `Nonneg` but that it is too
large.
-/
theorem OutputSettings.Nonneg.fails_iff {output : OutputSettings} (h : output.Nonneg)
    (e : Number.PlacesError) (finite : Prop) :
    output.precision.bind Number.placesError? = some e ∧ finite ↔
      ∃ p, output.precision = some p ∧ 2147483647 < p ∧ e = .tooMany p ∧ finite := by
  rw [Option.bind_eq_some_iff]
  constructor
  · -- Places that are not negative can only be too many.
    rintro ⟨⟨p, hp, he⟩, hfinite⟩
    obtain ⟨hlt, rfl⟩ := (Number.placesError?_eq_some_iff (h p hp) e).mp he
    exact ⟨p, hp, hlt, rfl, hfinite⟩
  · rintro ⟨p, hp, hlt, rfl, hfinite⟩
    exact ⟨⟨p, hp, (Number.placesError?_eq_some_iff (h p hp) _).mpr ⟨hlt, rfl⟩⟩, hfinite⟩

/-! ## Evaluations -/

namespace Command

/-- `results` breaks off for what is wrong with the number of places, if there is a finite value to
write with it. -/
theorem breakdown_results_eq_some_iff (output : OutputSettings) (source : String) (b : Breakdown) :
    (results output source).breakdown = some b ↔
      ∃ e, b = .places e ∧ output.precision.bind Number.placesError? = some e ∧
        ∃ v ∈ (Line.run source).values, Number.IsFinite v := by
  simp only [← Line.failure_showResult_eq_some_iff]
  show (Line.showResult output (Line.run source)).failure.map Breakdown.places = some b ↔ _
  rw [Option.map_eq_some_iff]
  -- A breakdown of an evaluation is one of its prints.
  exact exists_congr fun e => and_comm.trans (and_congr_left' eq_comm)

/-- `results` that do not break off answer the terms of the line one by one, beside dim prints. -/
theorem answers_results {output : OutputSettings} {source : String}
    (h : (results output source).breakdown = none) :
    List.Forall₂ (Line.Answers output) (Line.run source).terms
      ((results output source).prints.filter fun p => p.style ≠ .dim) :=
  Line.forall₂_answers_showResult (Option.map_eq_none_iff.mp h)

/-- What `results` come to: they break off under too many places for a finite value, and otherwise
answer every term of the line. -/
structure Resolved (output : OutputSettings) (text : String) : Prop where
  breakdown_iff : ∀ b, (results output text).breakdown = some b ↔
    ∃ p, output.precision = some p ∧ 2147483647 < p ∧ b = .places (.tooMany p) ∧
      ∃ v ∈ (Line.run text).values, Number.IsFinite v
  answers : (results output text).breakdown = none →
    List.Forall₂ (Line.Answers output) (Line.run text).terms
      ((results output text).prints.filter fun p => p.style ≠ .dim)

/-- Every evaluation is `Resolved` whose number of places is not negative. -/
theorem resolved_of_nonneg {output : OutputSettings} (h : output.Nonneg) (text : String) :
    Resolved output text where
  breakdown_iff b := by
    rw [breakdown_results_eq_some_iff]
    simp only [h.fails_iff]
    constructor
    · rintro ⟨_, rfl, p, hp, hlt, rfl, hfinite⟩
      exact ⟨p, hp, hlt, rfl, hfinite⟩
    · rintro ⟨p, hp, hlt, rfl, hfinite⟩
      exact ⟨_, rfl, p, hp, hlt, rfl, hfinite⟩
  answers := answers_results

end Command

/-! ## Sessions -/

namespace Session

/-- Whether a reply answers a line: if the line is to be run, it has results, and what is printed
beside dim prints answers these one by one. -/
def Answered (output : OutputSettings) (line : String) (r : Reply) : Prop :=
  Text.strip line ≠ "" → Text.strip line ∉ commands →
    (Line.run line).terms ≠ [] ∧
      List.Forall₂ (Line.Answers output) (Line.run line).terms
        (r.prints.filter fun p => p.style ≠ .dim)

/-- `handle` answers a line for which it does not fail. -/
theorem answered_handle (s : Session) {line : String} (h : (s.handle line).2.failure? = none) :
    Answered s.settings.output line (s.handle line).2 := by
  intro hne hcommand
  -- The line is run, and its prints are the reply.
  have hrequest := (request_eq_calculate_iff line _).mpr ⟨rfl, hne, hcommand⟩
  refine ⟨Line.terms_run_ne_nil hne, ?_⟩
  rw [failure_handle, hrequest] at h
  rw [handle, hrequest]
  exact Line.forall₂_answers_showResult h

/-- `run` answers all lines of a session that it does not break off. -/
theorem answered_of_failure_eq_none (s : Session) {reads : List Read}
    (h : (s.run reads).failure = none) :
    List.Forall₂ (Answered s.settings.output) (handled reads) (s.replies (handled reads)) := by
  -- No line in front of the read that stops it fails.
  rw [failure_run, failure_loop, findSome?_replies, List.findSome?_eq_none_iff] at h
  refine forall₂_replies s fun s' hs' line hline => ?_
  -- The settings stay what they were, so that a reply fails or not whatever the lines before it.
  rw [← hs']
  refine answered_handle s' ?_
  rw [failure_handle, hs', ← failure_handle]
  exact h line hline

end Session

/-! ## Loaded settings -/

/-- `load` admits a settings file that asks for more places than can be had. -/
theorem load_many_places :
    let path : FilePath := ⟨"", ["calcline.toml"]⟩
    Settings.load path (.file "[output]\nprecision = 2147483648\n".toUTF8) =
      .ok { settings := { output := { precision := some 2147483648 } }, path := some path } :=
  Settings.load_of_ofText (by cbv) (by cbv)

/-- `Line.run` finds a finite value in a line. -/
theorem exists_finite_run_one : ∃ v ∈ (Line.run "1").values, Number.IsFinite v := by
  have hscan : Token.scan "1" = .ok [Token.ofNumeral ['1'] 0] :=
    Token.scan_eq_ok_iff.mpr ⟨by decide, rfl⟩
  refine ⟨Number.ofNumeral ['1'], ?_, false, 1023 * 2 ^ 52, by decide +kernel⟩
  rw [Line.values_run_of_scan_single hscan rfl rfl]
  exact List.mem_singleton_self _

/-- Under settings that have been loaded, `Session.run` breaks off if and only if the number of
places is too large and one of the lines that are run has a finite value.  Otherwise it reads up to
the read that stops it and answers every line.  The same goes for `Command.results` of one line,
under every number of places that is not negative, so that it goes for the ones that `Job.ofArgs`
reads. -/
theorem breaks_off_iff_of_loaded {room : Room} {path : FilePath} {found : Found}
    {loaded : LoadedSettings}
    (hload : Settings.load path found room = .ok loaded ∨
      Settings.loadIfPresent path found room = .ok loaded) :
    (∀ reads : List Session.Read,
      let s : Session := { settings := loaded.settings }
      (∀ e, (s.run reads).failure = some e ↔
        ∃ p, loaded.settings.output.precision = some p ∧ 2147483647 < p ∧ e = .tooMany p ∧
          ∃ line ∈ Session.handled reads,
            Text.strip line ≠ "" ∧ Text.strip line ∉ Session.commands ∧
              ∃ v ∈ (Line.run line).values, Number.IsFinite v) ∧
      ((s.run reads).failure = none →
        s.run reads = s.transcript reads ∧
          List.Forall₂ (Session.Answered loaded.settings.output) (Session.handled reads)
            (s.replies (Session.handled reads)))) ∧
    (∀ output text, output.Nonneg → Command.Resolved output text) ∧
    ∀ args output text,
      Command.Job.ofArgs loaded.settings .eval args = .ok (.evaluate output text) →
      Command.Resolved output text := by
  -- Both ways of loading leave no negative number of places.
  have hnonneg : loaded.settings.output.Nonneg :=
    hload.elim Settings.nonneg_of_load Settings.nonneg_of_loadIfPresent
  refine ⟨?_, fun _ text houtput => Command.resolved_of_nonneg houtput text, ?_⟩
  · intro reads s
    refine ⟨fun e => ?_, fun h => ?_⟩
    · rw [Session.failure_run_eq_some_iff, hnonneg.fails_iff]
    · exact ⟨Session.run_of_failure_eq_none s h, Session.answered_of_failure_eq_none s h⟩
  · intro args output text hjob
    exact Command.resolved_of_nonneg (Command.Job.nonneg_of_ofArgs hnonneg hjob) text

/-- `breaks_off_iff_of_loaded` for a settings file with too many places, and an option that goes
before it. -/
theorem breaks_off_iff_of_loaded_many_places :
    let path : FilePath := ⟨"", ["calcline.toml"]⟩
    let settings : Settings := { output := { precision := some 2147483648 } }
    let s : Session := { settings }
    Settings.load path (.file "[output]\nprecision = 2147483648\n".toUTF8) =
        .ok { settings, path := some path } ∧
      (s.run [.line "1\n"]).failure = some (.tooMany 2147483648) ∧
      s.run [.line "$\n", .line "exit\n"] = s.transcript [.line "$\n", .line "exit\n"] ∧
      Command.Job.ofArgs settings .eval ["1", "-p", "2"] =
        .ok (.evaluate { precision := some 2 } "1") ∧
      (Command.results { precision := some 2 } "1").breakdown = none := by
  intro path settings s
  have hload := load_many_places
  have hjob : Command.Job.ofArgs settings .eval ["1", "-p", "2"] =
      .ok (.evaluate { precision := some 2 } "1") := by cbv
  obtain ⟨hsession, _, heval⟩ := breaks_off_iff_of_loaded (Or.inl hload)
  refine ⟨hload, ?_, ?_, hjob, ?_⟩
  · exact ((hsession [.line "1\n"]).1 _).mpr ⟨2147483648, rfl, by decide, rfl, "1", by decide,
      by decide, by decide, exists_finite_run_one⟩
  · refine ((hsession [.line "$\n", .line "exit\n"]).2 ?_).1
    have hscan : Token.scan "$" = .error (.unexpectedCharacter "$" 0) :=
      (Token.scan_eq_readPieces "$").trans rfl
    -- The line that is run has no value, and the other one quits.
    rw [Option.eq_none_iff_forall_ne_some]
    intro e he
    obtain ⟨_, _, _, _, line, hline, _, _, v, hv, _⟩ := ((hsession _).1 e).mp he
    have hlines : Session.handled [.line "$\n", .line "exit\n"] = ["$"] := by decide
    rw [hlines, List.mem_singleton] at hline
    rw [hline, Line.run_of_scan_error hscan] at hv
    cases hv
  · rw [Option.eq_none_iff_forall_ne_some]
    intro b hb
    obtain ⟨p, hp, hlt, _⟩ := ((heval _ _ _ hjob).breakdown_iff b).mp hb
    cases hp
    cases hlt

/-- Neither a settings file nor an option keeps `Session.run` or `Command.results` from breaking
off. -/
theorem not_forall_breakdown_eq_none :
    (¬ ∀ path found loaded, Settings.load path found = .ok loaded →
      ∀ reads, (Session.run { settings := loaded.settings } reads).failure = none) ∧
    ¬ ∀ args output text, Command.Job.ofArgs {} .eval args = .ok (.evaluate output text) →
      (Command.results output text).breakdown = none := by
  constructor
  · intro h
    have hnone := h ⟨"", ["calcline.toml"]⟩ _ _ load_many_places [.line "1\n"]
    have hsome := (Session.failure_run_eq_some_iff
      { settings := { output := { precision := some 2147483648 } } } [.line "1\n"]
      (.tooMany 2147483648)).mpr
      ⟨rfl, "1", by decide, by decide, by decide, exists_finite_run_one⟩
    rw [hnone] at hsome
    cases hsome
  · intro h
    have hnone := h ["1", "-p", "2147483648"] { precision := some 2147483648 } "1" (by cbv)
    have hsome := (Command.breakdown_results_eq_some_iff { precision := some 2147483648 } "1"
      (.places (.tooMany 2147483648))).mpr ⟨_, rfl, rfl, exists_finite_run_one⟩
    rw [hnone] at hsome
    cases hsome

end Reckoner
