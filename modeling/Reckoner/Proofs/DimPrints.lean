import Reckoner.Proofs.SessionLoop

/-!
# What is shown beside results

Tokens and trees are shown dim, beside the results of a line.  Whether they are shown changes
nothing else: hiding what is dim in the answers of a session gives the answers of one that shows
neither, and so any two sessions that differ in nothing but this differ in nothing but dim prints.

## Key results

- `handle_bare`: hiding what is dim commutes with answering a line
- `after_bare`, `replies_bare`, `run_bare`: and so with answering any number of lines
- `handle_shows`: which dim prints come with an answer, and where
- `replies_of_bare_eq`: two sessions that differ in what they show beside results
-/

namespace Reckoner

/-! ## Hiding what is dim -/

/-- The same, with nothing shown beside results. -/
def OutputSettings.bare (o : OutputSettings) : OutputSettings :=
  { o with showTokens := false, showAst := false }

/-- The same, with output settings that are `bare`. -/
def Settings.bare (s : Settings) : Settings := { s with output := s.output.bare }

/-- The prints that are not dim. -/
def Print.withoutDim (ps : List Print) : List Print := ps.filter fun p => p.style ≠ .dim

/-- `withoutDim` of joined prints is that of both parts. -/
theorem Print.withoutDim_append (ps qs : List Print) :
    withoutDim (ps ++ qs) = withoutDim ps ++ withoutDim qs := List.filter_append _ _

/-- `withoutDim` leaves prints alone of which none is dim. -/
theorem Print.withoutDim_eq_self {ps : List Print} (h : ∀ p ∈ ps, p.style ≠ .dim) :
    withoutDim ps = ps := List.filter_eq_self.mpr fun p hp => decide_eq_true (h p hp)

namespace Printed

/-- The same prints without those that are dim, as `Print.withoutDim` leaves them. -/
def withoutDim (p : Printed) : Printed := { p with prints := Print.withoutDim p.prints }

/-- `withoutDim` of joined prints is that of both parts: they end early whether or not what is dim
in them is hidden. -/
theorem withoutDim_append (a b : Printed) :
    (a ++ b).withoutDim = a.withoutDim ++ b.withoutDim := by
  -- If the first part ends early, the second is not printed at all.
  cases h : a.failure with
  | some e =>
    have h' : a.withoutDim.failure = some e := h
    rw [append_of_failure h, append_of_failure h']
  | none =>
    have h' : a.withoutDim.failure = none := h
    rw [append_of_failure_eq_none h, append_of_failure_eq_none h']
    simp only [withoutDim, Print.withoutDim_append]

/-- `withoutDim` of any number of parts is that of each. -/
theorem withoutDim_join (ps : List Printed) :
    (join ps).withoutDim = join (ps.map withoutDim) := by
  induction ps with
  | nil => rfl
  | cons p ps ih =>
    show (p ++ join ps).withoutDim = p.withoutDim ++ join (ps.map withoutDim)
    rw [withoutDim_append, ih]

end Printed

/-- The same reply without its dim prints. -/
def Reply.withoutDim (r : Reply) : Reply := { r with prints := Print.withoutDim r.prints }

/-! ## Results of a line -/

namespace Line

section Hiding

variable (output : OutputSettings)

/-- `showTerm` without what is dim is `showTerm` with nothing beside results. -/
theorem withoutDim_showTerm (t : TermResult) :
    (showTerm output t).withoutDim = showTerm output.bare t := by
  rw [showTerm, showTerm, Printed.withoutDim_append]
  congr 1
  · -- A tree is dim, and hidden.
    cases t.expr with
    | none => rfl
    | some e => cases output.showAst <;> rfl
  · -- An answer is not, and it is written in the same way.
    cases t.outcome with
    | error r => rfl
    | ok v =>
      have hprecision : output.bare.precision = output.precision := rfl
      simp only [hprecision]
      cases Number.display output.precision v <;> rfl

/-- `showResult` without what is dim is `showResult` with nothing beside results. -/
theorem withoutDim_showResult (r : LineResult) :
    (showResult output r).withoutDim = showResult output.bare r := by
  rw [showResult_eq, showResult_eq, Printed.withoutDim_append, Printed.withoutDim_join,
    List.map_map]
  congr 1
  · show { prints := Print.withoutDim (tokenPrints output r) } = ({ prints := [] } : Printed)
    rw [Print.withoutDim, filter_tokenPrints]
  · congr 2
    funext t
    exact withoutDim_showTerm output t

end Hiding

/-- The prints of a term that has its answer: its value, or what is wrong with it, and in front of
this its tree if trees are shown.  What could not be read has no tree. -/
inductive TermPrints (output : OutputSettings) : TermResult → List Print → Prop
  | value {e : Expr} {v : Float} {text : String} (hv : e.evaluate = .ok v)
      (htext : Number.display output.precision v = .ok text) :
      TermPrints output (.ofExpr e) (treePrints output (.ofExpr e) ++ [.line .plain text])
  | divisionByZero {e : Expr} (he : e.evaluate = .error .divisionByZero) :
      TermPrints output (.ofExpr e)
        (treePrints output (.ofExpr e) ++ [.report { error := .eval .divisionByZero }])
  | unread {source : String} {error : Error} (h : error.isReading) :
      TermPrints output (.ofError source error) [.report (Report.attach source { error })]

variable {output : OutputSettings} {source : String}

/-- `showTerm` prints what `TermPrints` says for a term of `run`, unless it ends early. -/
theorem termPrints_showTerm {t : TermResult} (ht : t ∈ (run source).terms)
    (h : (showTerm output t).failure = none) : TermPrints output t (showTerm output t).prints := by
  -- Either the term is answered, or it breaks off, which it does not.
  rcases showTerm_cases output t with ⟨p, hp, hshow⟩ | ⟨_, e, _, _, hshow⟩
  · rw [hshow]
    -- What has been read has a tree to show, and what has not is reported alone.
    rcases exists_ofExpr_or_ofError ht with ⟨e, rfl⟩ | ⟨error, hreading, rfl⟩
    · cases hp with
      | value hv htext => exact .value (TermResult.evaluate_of_value?_ofExpr hv) htext
      | error hr =>
        obtain ⟨err, herr, rfl⟩ := TermResult.evaluate_of_error?_ofExpr hr
        obtain rfl := Expr.evaluate_error_of_isTerm (isTerm_of_mem_terms ht rfl) herr
        exact .divisionByZero herr
    · cases hp with
      | value hv htext => cases hv
      | error hr =>
        cases hr
        exact .unread hreading
  · rw [hshow] at h
    cases h

/-- Unless they end early, the prints of `showResult` are the tokens of the line, if they are shown,
and then those of its terms. -/
theorem exists_termPrints (h : (showResult output (run source)).failure = none) :
    ∃ parts, List.Forall₂ (TermPrints output) (run source).terms parts ∧
      (showResult output (run source)).prints =
        tokenPrints output (run source) ++ parts.flatten := by
  have hnone := failure_showResult_eq_none_iff.mp h
  refine ⟨(run source).terms.map fun t => (showTerm output t).prints, ?_, ?_⟩
  · rw [List.forall₂_map_right_iff, List.forall₂_same]
    exact fun t ht => termPrints_showTerm ht (hnone t ht)
  · rw [showResult_eq, Printed.append_of_failure_eq_none rfl,
      Printed.prints_join (List.forall_mem_map.mpr hnone), List.flatMap_map, List.flatMap_def]

/-- `showResult` prints neither tokens nor a tree for a line that cannot be scanned. -/
theorem prints_showResult_of_scan_error {e : LexError} (h : Token.scan source = .error e) :
    (showResult output (run source)).prints =
      [.report (Report.attach source { error := .lex e })] := by
  rw [run_of_scan_error h, showResult_eq]
  have hnone : tokenPrints output ⟨source, [], [.ofError source (.lex e)]⟩ = [] := by
    rw [tokenPrints, if_neg (by simp)]
  rw [hnone]
  rfl

end Line

namespace Session

variable (s : Session)

/-! ## One line -/

/-- The same session, with nothing shown beside results. -/
def bare : Session := { s with settings := s.settings.bare }

/-- `handle` prints nothing dim for a line that is not run. -/
theorem style_ne_dim_of_not_calculate {line : String} (h : ∀ text, request line ≠ .calculate text) :
    ∀ p ∈ (s.handle line).2.prints, p.style ≠ .dim := by
  rw [handle]
  cases hrequest : request line with
  | blank | quit => simp
  | help => exact List.forall_mem_singleton.mpr Style.noConfusion
  | history =>
    simp only [List.forall_mem_map]
    exact fun _ _ => Style.noConfusion
  | calculate text => exact absurd hrequest (h text)

/-- `handle` of a session that shows nothing beside results is `handle` of the session itself,
without what is dim. -/
theorem handle_bare (line : String) :
    s.bare.handle line = ((s.handle line).1.bare, (s.handle line).2.withoutDim) := by
  rw [handle, handle]
  cases hrequest : request line with
  | blank | quit | help => rfl
  | history =>
    -- The lines that have been recorded are shown plain.
    have hother : ∀ text, request line ≠ .calculate text := by simp [hrequest]
    have hplain := style_ne_dim_of_not_calculate s hother
    rw [handle, hrequest] at hplain
    simp only [Reply.withoutDim, Print.withoutDim_eq_self hplain]
    rfl
  | calculate text =>
    -- The line is run in the same way, and only its results are shown differently.
    have hshow := Line.withoutDim_showResult s.settings.output (Line.run line)
    have houtput : s.bare.settings.output = s.settings.output.bare := rfl
    simp only [calculate, houtput, ← hshow]
    rfl

/-- The places of dim prints in a reply to a line: if the line is run and the reply does not end
early, it is put together from tokens and the prints of terms. -/
structure Shows (output : OutputSettings) (line : String) (reply : Reply) : Prop where
  run : Text.strip line ≠ "" → Text.strip line ∉ commands → reply.failure? = none →
    ∃ parts, List.Forall₂ (Line.TermPrints output) (Line.run line).terms parts ∧
      reply.prints = Line.tokenPrints output (Line.run line) ++ parts.flatten
  unscanned : ∀ e, Token.scan line = .error e → ∀ p ∈ reply.prints, p.style ≠ .dim
  other : Text.strip line = "" ∨ Text.strip line ∈ commands → ∀ p ∈ reply.prints, p.style ≠ .dim

/-- `handle` shows tokens and trees where `Shows` says. -/
theorem handle_shows (line : String) : Shows s.settings.output line (s.handle line).2 := by
  constructor
  case run =>
    intro hne hcommand hfailure
    have hrequest := (request_eq_calculate_iff line _).mpr ⟨rfl, hne, hcommand⟩
    rw [failure_handle, hrequest] at hfailure
    rw [handle, hrequest]
    exact Line.exists_termPrints hfailure
  case unscanned =>
    intro e he
    by_cases hrun : ∃ text, request line = .calculate text
    · obtain ⟨text, hrequest⟩ := hrun
      rw [handle, hrequest]
      show ∀ p ∈ (Line.showResult s.settings.output (Line.run line)).prints, p.style ≠ .dim
      rw [Line.prints_showResult_of_scan_error he]
      exact List.forall_mem_singleton.mpr Style.noConfusion
    · exact style_ne_dim_of_not_calculate s (not_exists.mp hrun)
  case other =>
    intro hother
    refine style_ne_dim_of_not_calculate s fun text hrequest => ?_
    obtain ⟨rfl, hne, hcommand⟩ := (request_eq_calculate_iff line text).mp hrequest
    exact hother.elim hne hcommand

/-! ## Any number of lines -/

/-- `after` leaves a session that shows nothing beside results with the same records. -/
theorem after_bare (lines : List String) : s.bare.after lines = (s.after lines).bare := by
  induction lines generalizing s with
  | nil => rfl
  | cons line lines ih => rw [after_cons, after_cons, handle_bare, ih]

/-- `replies` of a session that shows nothing beside results are those of the session itself,
without what is dim. -/
theorem replies_bare (lines : List String) :
    s.bare.replies lines = (s.replies lines).map Reply.withoutDim := by
  induction lines generalizing s with
  | nil => rfl
  | cons line lines ih => rw [replies, replies, handle_bare, ih, List.map_cons]

/-- `replies` show tokens and trees where `Shows` says, line by line. -/
theorem forall₂_shows (lines : List String) :
    List.Forall₂ (Shows s.settings.output) lines (s.replies lines) := by
  refine forall₂_replies s fun s' hs' line _ => ?_
  rw [← hs']
  exact handle_shows s' line

/-- Two sessions whose settings differ only in what is shown beside results have the same `replies`
to the same lines, and break off for the same reasons, but for dim prints.  They record the same
lines, and each shows the tokens of lines and the trees of terms where its settings ask for them. -/
theorem replies_of_bare_eq {a b : Settings} (h : a.bare = b.bare) (lines : List String) :
    (after { settings := a } lines).history = (after { settings := b } lines).history ∧
      (replies { settings := a } lines).map Reply.withoutDim =
        (replies { settings := b } lines).map Reply.withoutDim ∧
      List.Forall₂ (Shows a.output) lines (replies { settings := a } lines) ∧
      List.Forall₂ (Shows b.output) lines (replies { settings := b } lines) := by
  -- Neither is compared with the other: both come to the session that shows nothing.
  have hbare : bare { settings := a } = bare { settings := b } := congrArg (Session.mk · []) h
  refine ⟨?_, ?_, forall₂_shows { settings := a } lines, forall₂_shows { settings := b } lines⟩
  · have hafter : (after { settings := a } lines).bare = (after { settings := b } lines).bare := by
      rw [← after_bare, ← after_bare, hbare]
    show (after { settings := a } lines).bare.history = (after { settings := b } lines).bare.history
    rw [hafter]
  · rw [← replies_bare, ← replies_bare, hbare]

/-- A line that divides by zero and then breaks off, one that cannot be scanned, and commands. -/
theorem replies_of_bare_eq_many_places :
    let b : Settings := { output := { precision := some 2147483648 } }
    let a : Settings := { b with output := { b.output with showTokens := true, showAst := true } }
    let lines := ["2/0 1", "4 $", "history", "quit"]
    a.bare = b.bare ∧
      (after { settings := a } lines).history = (after { settings := b } lines).history ∧
      (replies { settings := a } lines).map Reply.withoutDim =
        (replies { settings := b } lines).map Reply.withoutDim ∧
      (replies { settings := a } lines).map Reply.outcome =
        [.broken (.tooMany 2147483648), .goOn, .goOn, .finish] ∧
      ((replies { settings := a } lines).map Reply.prints).head? =
        some [.line .dim "tokens: 2 / 0 1", .line .dim "ast: (2 / 0)",
          .line .red "eval error: division by zero", .line .dim "ast: 1"] ∧
      List.Forall₂ (Shows a.output) lines (replies { settings := a } lines) := by
  intro b a lines
  have h : a.bare = b.bare := rfl
  obtain ⟨hhistory, hreplies, hshows, _⟩ := replies_of_bare_eq h lines
  exact ⟨h, hhistory, hreplies, by decide +kernel, by decide +kernel, hshows⟩

/-! ## Reading lines -/

/-- The same transcript with nothing shown beside results. -/
def Transcript.bare (t : Transcript) : Transcript :=
  { t with session := t.session.bare, prints := Print.withoutDim t.prints }

/-- `loop` of a session that shows nothing beside results is `loop` of the session itself, without
what is dim. -/
theorem loop_bare (reads : List Read) : s.bare.loop reads = (s.loop reads).bare := by
  induction reads generalizing s with
  | nil => rfl
  | cons r rest ih =>
    cases r with
    | interrupt => rfl
    | line text =>
      rw [loop, loop, handle_bare]
      obtain ⟨after, prints, log, outcome⟩ := s.handle (Text.stripLineEnd text)
      -- At the end of input both stop alike; otherwise they stop or go on as the outcome says.
      split
      · rfl
      · cases outcome with
        | finish | broken _ => rfl
        | goOn =>
          show Transcript.mk _ _ _ _ _ = Transcript.mk _ _ _ _ _
          rw [ih]
          -- The prompt is not dim.
          simp only [Transcript.bare, Print.withoutDim_append]
          rfl

/-- `run` of a session that shows nothing beside results is `run` of the session itself, without
what is dim. -/
theorem run_bare (reads : List Read) : s.bare.run reads = (s.run reads).bare := by
  rw [run, run, loop_bare]
  have hfailure : (s.loop reads).bare.failure = (s.loop reads).failure := rfl
  simp only [hfailure]
  cases (s.loop reads).failure with
  | some e => rfl
  | none =>
    simp only [Transcript.bare, Print.withoutDim_append]
    rfl

end Session

end Reckoner
