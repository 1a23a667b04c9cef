import Reckoner.Proofs.EarliestError
import Reckoner.Proofs.LineResults
import Reckoner.Proofs.ScanExact

/-!
# Lines further on

A text that stands further on in a line has the same tokens further on, and what is wrong with it is
the same further on.  Trees and values know nothing of places, so that they stay as they are.

## Key results

- `scanFrom_add`: what is scanned further on has moved, and nothing else
- `complete_congr`: the complete trees depend on kinds and values of tokens alone
- `termsOf_map_shift`: what cannot be read has moved with the tokens
- `relocate_ofExpr`, `relocate_ofError`: what becomes of the results of a line
-/

namespace Reckoner

/-! ## Moving -/

/-- The token `n` characters further on. -/
def Token.shift (n : Int) (t : Token) : Token := { t with pos := t.pos + n }

/-- The same error `n` characters further on. -/
def LexError.shift (n : Int) : LexError → LexError
  | unexpectedCharacter char pos => unexpectedCharacter char (pos + n)
  | invalidNumber text pos => invalidNumber text (pos + n)
  | described message pos => described message (pos + n)

/-- An error that `shift` moves by nothing stays. -/
@[simp] theorem LexError.shift_zero (e : LexError) : e.shift 0 = e := by
  cases e <;> simp [shift]

/-- The same error `n` characters further on. -/
def ParseError.shift (n : Int) : ParseError → ParseError
  | unexpectedToken found pos expected => unexpectedToken found (pos + n) expected
  | unexpectedEnd expected pos => unexpectedEnd expected (pos.map (· + n))
  | missingValue text pos => missingValue text (pos + n)
  | described message => described message

/-- The same error `n` characters further on, if it has a place in a line. -/
def Error.shift (n : Int) : Error → Error
  | lex e => lex (e.shift n)
  | parse e => parse (e.shift n)
  | general message => general message
  | config e => config e
  | eval e => eval e

/-- The report of the same error in another line, `n` characters further on. -/
def Report.relocate (n : Int) (source : String) (r : Report) : Report where
  error := r.error.shift n
  context := r.context.map fun c => ⟨source, c.pos + n⟩

/-- The result of the same term in another line, `n` characters further on: its tree and its value
stay, and an error moves. -/
def TermResult.relocate (n : Int) (source : String) (t : TermResult) : TermResult where
  expr := t.expr
  outcome := t.outcome.mapError (Report.relocate n source)

namespace Token

/-! ## Scanning further on -/

/-- What is scanned, `n` characters further on. -/
def shiftScan (n : Int) : Except LexError (List Token) → Except LexError (List Token)
  | .ok tokens => .ok (tokens.map (shift n))
  | .error e => .error (e.shift n)

namespace Piece

/-- The piece `n` characters further on. -/
def shift (n : Nat) (p : Piece) : Piece := { p with pos := p.pos + n }

/-- `place` puts parts further on where the text starts further on. -/
theorem place_add (pos n : Nat) (parts : List (List Char)) :
    place (pos + n) parts = (place pos parts).map (shift n) := by
  -- On the parts; each starts where the one before it ends.
  induction parts generalizing pos with
  | nil => rfl
  | cons part parts ih =>
    rw [place, place, List.map_cons, Nat.add_right_comm, ih]
    rfl

/-- A piece further on is a run if it is one. -/
@[simp] theorem isRun_shift (n : Nat) (p : Piece) : (p.shift n).isRun = p.isRun := rfl

/-- `fault?` finds the same further on. -/
theorem fault?_shift (n : Nat) (p : Piece) :
    (p.shift n).fault? = p.fault?.map (LexError.shift n) := by
  obtain ⟨pos, chars⟩ := p
  cases chars with
  | nil => rfl
  | cons c rest =>
    rw [fault?, fault?, isRun_shift]
    simp only [shift, apply_ite (Option.map (LexError.shift n))]
    rfl

/-- `token?` makes the same further on. -/
theorem token?_shift (n : Nat) (p : Piece) :
    (p.shift n).token? = p.token?.map (Token.shift n) := by
  obtain ⟨pos, chars⟩ := p
  rw [token?, token?, isRun_shift, apply_ite (Option.map (Token.shift n)), Option.map_bind]
  simp only [Function.comp_def, Option.map_map]
  rfl

end Piece

/-- `readPieces` gives the same further on. -/
theorem readPieces_map_shift (n : Nat) (ps : List Piece) :
    readPieces (ps.map (Piece.shift n)) = shiftScan n (readPieces ps) := by
  -- The first fault is in the same piece.
  have hfault : (ps.map (Piece.shift n)).findSome? Piece.fault? =
      (ps.findSome? Piece.fault?).map (LexError.shift n) := by
    induction ps with
    | nil => rfl
    | cons p ps ih =>
      rw [List.map_cons, List.findSome?_cons, List.findSome?_cons, Piece.fault?_shift, ih]
      cases p.fault? <;> rfl
  -- The pieces keep their order, so that the tokens do too.
  have htokens : (ps.map (Piece.shift n)).filterMap Piece.token? =
      (ps.filterMap Piece.token?).map (shift n) := by
    rw [List.filterMap_map, List.map_filterMap]
    exact congrArg (ps.filterMap ·) (funext (Piece.token?_shift n))
  rw [readPieces, readPieces, hfault, htokens]
  cases ps.findSome? Piece.fault? <;> rfl

/-- `scanFrom` gives the same further on: the tokens, or the error, have moved. -/
theorem scanFrom_add (pos n : Nat) (cs : List Char) :
    scanFrom (pos + n) cs = shiftScan n (scanFrom pos cs) := by
  rw [scanFrom_eq_readPieces, scanFrom_eq_readPieces, piecesFrom, Piece.place_add,
    readPieces_map_shift]
  rfl

/-! ## Tokens further on -/

/-- A token further on has the same kind. -/
@[simp] theorem kind_shift (n : Int) (t : Token) : (t.shift n).kind = t.kind := rfl

/-- A token further on has the same symbol. -/
@[simp] theorem symbol_shift (n : Int) (t : Token) : (t.shift n).symbol = t.symbol := rfl

/-- A token further on stops further on. -/
theorem stop_shift (n : Int) (t : Token) : (t.shift n).stop = t.stop + n := by
  simp only [stop, shift]
  omega

/-- Tokens further on have the same symbols. -/
theorem map_symbol_map_shift (n : Int) (tokens : List Token) :
    (tokens.map (shift n)).map symbol = tokens.map symbol := by
  rw [List.map_map]
  rfl

/-- Tokens further on have values if they do. -/
theorem valued_map_shift {tokens : List Token} (hv : ∀ t ∈ tokens, t.Valued) (n : Int) :
    ∀ t ∈ tokens.map (shift n), t.Valued :=
  List.forall_mem_map.mpr hv

end Token

namespace Expr

open Token (Symbol)
open Grammar.State

/-! ## Reading further on -/

/-- The same terms, where what cannot be read is `n` characters further on. -/
def Terms.shift (n : Int) (terms : Terms) : Terms where
  complete := terms.complete
  failure := terms.failure.map (ParseError.shift n)

/-- `stopOf` is further on for tokens further on, if there are any. -/
theorem stopOf_map_shift {tokens : List Token} (hne : tokens ≠ []) (n : Int) :
    stopOf (tokens.map (Token.shift n)) = stopOf tokens + n := by
  rw [stopOf, stopOf, List.getLast?_map, List.getLast?_eq_some_getLast hne]
  exact Token.stop_shift n _

/-- `diagnose` reports the same further on. -/
theorem diagnose_map_shift (stop n : Int) (q : Grammar.State) (tokens : List Token) :
    q.diagnose (stop + n) (tokens.map (Token.shift n)) =
      (q.diagnose stop tokens).map (ParseError.shift n) := by
  -- Along the automaton, which sees only kinds, and these stay.
  induction tokens generalizing q with
  | nil =>
    -- At the end only `stop` has moved.
    simp only [List.map_nil, diagnose]
    split <;> rfl
  | cons t ts ih =>
    rw [List.map_cons]
    cases hq : q.next? t.kind with
    | none =>
      rw [diagnose_cons_of_stuck hq, diagnose_cons_of_stuck (t := t.shift n) hq]
      rfl
    | some q' => rw [diagnose_cons_of_next hq, diagnose_cons_of_next (t := t.shift n) hq, ih]

/-- The complete trees of `termsOf` depend on kinds and values of tokens alone. -/
theorem complete_congr {tokens others : List Token} (hv : ∀ t ∈ tokens, t.Valued)
    (hv' : ∀ t ∈ others, t.Valued) (h : tokens.map Token.symbol = others.map Token.symbol) :
    (termsOf tokens).complete = (termsOf others).complete := by
  have hkinds : tokens.map Token.kind = others.map Token.kind := by
    rw [Token.map_kind_eq, Token.map_kind_eq, h]
  -- Without a failure all tokens are read, and with one those in front of the last break.
  cases hfailure : (termsOf tokens).failure with
  | none =>
    have hread := (parseAll_eq_ok_iff_failure tokens _).mpr ⟨hfailure, rfl⟩
    obtain ⟨hes, hinorder⟩ := (parseAll_eq_ok_iff hv _).mp hread
    have hothers : others.map Token.symbol = (termsOf tokens).complete.flatMap inorder :=
      h.symm.trans hinorder.symm
    rw [termsOf_of_inorder hes hothers]
  | some err =>
    -- Both fail at the same place, so that the same tokens stand in front of it.
    obtain ⟨k, hfails⟩ : ∃ k, Grammar.FailsAt (tokens.map Token.kind) k := by
      rcases exists_failsAt hv hfailure with ⟨_, _, _, _, _, _, hfails⟩ | ⟨_, hfails⟩
      · exact ⟨_, hfails⟩
      · exact ⟨_, hfails⟩
    have hread := parseAll_take_lastBreak hv hfails
    have hread' := parseAll_take_lastBreak hv' (hkinds ▸ hfails)
    rw [← hkinds] at hread'
    -- What stands in front of the break is read as canonical trees, which its tokens determine.
    generalize Grammar.lastBreak ((tokens.map Token.kind).take k) = j at hread hread'
    obtain ⟨hes, hinorder⟩ :=
      (parseAll_eq_ok_iff (fun t ht => hv t (List.mem_of_mem_take ht)) _).mp hread
    rw [List.map_take, h, ← List.map_take] at hinorder
    rw [parseAll_of_inorder hes hinorder.symm] at hread'
    exact Except.ok.inj hread'

/-- `termsOf` reads the same terms further on, and what cannot be read has moved with the tokens. -/
theorem termsOf_map_shift {tokens : List Token} (hv : ∀ t ∈ tokens, t.Valued) (n : Int) :
    termsOf (tokens.map (Token.shift n)) = (termsOf tokens).shift n := by
  have hv' := Token.valued_map_shift hv n
  have hcomplete := complete_congr hv' hv (Token.map_symbol_map_shift n tokens)
  -- What could not be read is found by `diagnose`, and the stop moves with the last token.
  have hfailure : (termsOf (tokens.map (Token.shift n))).failure =
      (termsOf tokens).failure.map (ParseError.shift n) := by
    rw [failure_termsOf hv', failure_termsOf hv]
    cases tokens with
    | nil => rfl
    | cons t ts => rw [stopOf_map_shift (List.cons_ne_nil t ts), diagnose_map_shift]
  rw [Terms.shift, ← hcomplete, ← hfailure]

end Expr

/-! ## Results further on -/

/-- The place of an error moves with it. -/
theorem Error.pos?_shift (n : Int) (error : Error) :
    (error.shift n).pos? = error.pos?.map (· + n) := by
  -- Errors of two families have positions.
  rcases error with _ | _ | e | e | _
  · rfl
  · rfl
  · cases e <;> rfl
  · cases e <;> rfl
  · rfl

/-- `relocate` takes a report to another line as `attach` would have put it there. -/
theorem Report.relocate_attach (n : Int) (source source' : String) (error : Error) :
    relocate n source' (attach source { error }) = attach source' { error := error.shift n } := by
  simp only [attach, Error.pos?_shift]
  cases error.pos? <;> rfl

namespace TermResult

/-- `relocate` leaves values as they are. -/
@[simp] theorem value?_relocate (n : Int) (source : String) (t : TermResult) :
    (t.relocate n source).value? = t.value? := by
  simp only [value?, relocate]
  cases t.outcome <;> rfl

/-- `relocate` leaves a term as it is that has been read: it has no place in a line. -/
@[simp] theorem relocate_ofExpr (n : Int) (source : String) (e : Expr) :
    (ofExpr e).relocate n source = ofExpr e := by
  simp only [relocate, ofExpr]
  cases e.evaluate <;> rfl

/-- `relocate` moves an error to another line. -/
@[simp] theorem relocate_ofError (n : Int) (source source' : String) (error : Error) :
    (ofError source error).relocate n source' = ofError source' (error.shift n) := by
  simp only [relocate, ofError, Except.mapError, Report.relocate_attach]

end TermResult

/-- `run` gives a line the results of a text further on, if `scan` gives it what it gives the text,
further on. -/
theorem Line.run_of_scan_shift {source text : String} {n : Int}
    (h : Token.scan source = Token.shiftScan n (Token.scan text)) :
    run source =
      { source
        tokens := (run text).tokens.map (Token.shift n)
        terms := (run text).terms.map (TermResult.relocate n source) } := by
  cases htext : Token.scan text with
  | error e =>
    rw [htext] at h
    rw [run_of_scan_error h, run_of_scan_error htext]
    simp only [List.map_nil, List.map_cons, TermResult.relocate_ofError, Error.shift]
  | ok tokens =>
    rw [htext] at h
    rw [run_of_scan_ok h, run_of_scan_ok htext, Expr.termsOf_map_shift (Token.valued_of_scan htext)]
    -- Complete terms stay, and what could not be read has moved.
    simp only [Expr.Terms.shift, List.map_append, List.map_map, Option.toList_map]
    simp only [Function.comp_def, TermResult.relocate_ofExpr, TermResult.relocate_ofError,
      Error.shift]

end Reckoner
