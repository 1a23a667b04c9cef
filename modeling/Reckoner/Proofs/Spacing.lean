import Reckoner.Proofs.EqualTokens
import Reckoner.Proofs.Joined
import Reckoner.Proofs.NumeralValues

/-!
# Blanks between tokens

All that scanning remembers of what stands in front of a place in a line is whether a run of digits
and points goes on there.  Anywhere else the line can be cut and the parts scanned one by one, and
blanks can be put in or taken out without a difference to anything but positions.

## Key results

- `sameTokens_of_symbols`: tokens of lines are equal if they have the same kinds and values
- `sameScan_append_blanks`: blanks change nothing where no run goes on
- `scan_compositional`: a line that is cut between two runs has the tokens, or the error, of its
  parts
-/

namespace Reckoner.Token

open Binary64

/-! ## Equal tokens -/

section Equal

variable {t u : Token}

/-- Tokens of lines are `==` if they have one symbol.  All that is left out of a symbol is the text
and the position: an operator has no value anyway, and the value of a numeral is a number, so that
it equals itself. -/
theorem FromLine.beq_of_symbol (ht : FromLine t) (hu : FromLine u) (h : t.symbol = u.symbol) :
    (t == u) = true := by
  have hk : t.kind = u.kind := congrArg Symbol.kind h
  rw [Token.beq_iff]
  refine ⟨hk, ?_⟩
  rcases ht.cases with ⟨n, hn, htk, htv⟩ | ⟨c, hc, _, htv⟩
  · obtain ⟨_, huv⟩ := value_of_symbol (h ▸ symbol_of_number htk htv)
    rw [htv, huv]
    exact (Binary64.beq_iff _ _).mpr (Or.inl ⟨rfl, datum_ofRank_ne_nan false hn⟩)
  · rcases hu.cases with ⟨_, _, huk, _⟩ | ⟨_, _, _, huv⟩
    · exact absurd (hk.trans huk) (ne_number_of_ofOperator? hc)
    · rw [htv, huv]
      rfl

end Equal

section Same

variable {ts us : List Token}

/-- Tokens of lines are `SameTokens` if they have the same symbols. -/
theorem sameTokens_of_symbols (hts : ∀ t ∈ ts, FromLine t) (hus : ∀ u ∈ us, FromLine u)
    (h : ts.map symbol = us.map symbol) : SameTokens ts us := by
  induction ts generalizing us with
  | nil =>
    rw [List.map_nil, eq_comm, List.map_eq_nil_iff] at h
    rw [h]
    exact .nil
  | cons t ts ih =>
    cases us with
    | nil => simp at h
    | cons u us =>
      -- The lists go in step, since their symbols are as many.
      obtain ⟨hhead, htail⟩ := List.cons.inj h
      obtain ⟨ht, hts⟩ := List.forall_mem_cons.mp hts
      obtain ⟨hu, hus⟩ := List.forall_mem_cons.mp hus
      exact .cons (ht.beq_of_symbol hu hhead) (ih hts hus htail)

end Same

/-! ## Cuts -/

/-- Results of `scan` that differ in positions only: equal tokens, or one error in two places. -/
inductive SameScan : Except LexError (List Token) → Except LexError (List Token) → Prop
  | ok {ts us : List Token} (h : SameTokens ts us) : SameScan (.ok ts) (.ok us)
  | error (err : LexError) (m n : Int) : SameScan (.error (err.shift m)) (.error (err.shift n))

section Cuts

variable {a b : String} {ts us : List Token}

/-- An error of `scan` differs from itself in nothing. -/
theorem SameScan.self (r : LexError) : SameScan (.error r) (.error r) := by
  have hself := SameScan.error r 0 0
  rwa [LexError.shift_zero] at hself

/-- Lines that `scan` reads as tokens with the same symbols are `SameScan`. -/
theorem sameScan_of_symbols (ha : scan a = .ok ts) (hb : scan b = .ok us)
    (h : ts.map symbol = us.map symbol) : SameScan (scan a) (scan b) := by
  rw [ha, hb]
  exact .ok (sameTokens_of_symbols (fromLine_of_scan ha) (fromLine_of_scan hb) h)

/-- `scan` gives the same with blanks put in where no run goes on. -/
theorem sameScan_append_blanks {w : String}
    (h : ∀ c ∈ a.toList.getLast?, ∀ d ∈ b.toList.head?, ¬ (isNumeral c ∧ isNumeral d))
    (hw : ∀ c ∈ w.toList, c ∈ blanks) : SameScan (scan (a ++ w ++ b)) (scan (a ++ b)) := by
  have hwide := scan_append_blanks hw fun _ => h
  have hclose := scan_append h
  -- What is wrong with the first part stands in front of the blanks.
  cases ha : scan a with
  | error err =>
    rw [hwide, hclose, ha]
    exact .self err
  | ok ts =>
    cases hb : scan b with
    | error err =>
      rw [hwide, hclose, ha, hb]
      -- What is wrong with the second part stands behind them.
      exact .error err _ _
    | ok us =>
      rw [ha, hb] at hwide hclose
      refine sameScan_of_symbols hwide hclose ?_
      simp only [List.map_append, map_symbol_map_shift]

/-- `scan` reads a line that is cut anywhere but inside a run part by part: what is wrong with the
first part is wrong with the line, and otherwise the second part gives its error or its tokens,
further on.  Blanks put in there or taken out change positions only. -/
theorem scan_compositional (a b : String)
    (h : ∀ c ∈ a.toList.getLast?, ∀ d ∈ b.toList.head?, ¬ (isNumeral c ∧ isNumeral d)) :
    (∀ e, scan a = .error e → scan (a ++ b) = .error e) ∧
      (∀ ts e, scan a = .ok ts → scan b = .error e → scan (a ++ b) = .error (e.shift a.length)) ∧
      (∀ ts us, scan a = .ok ts → scan b = .ok us →
        scan (a ++ b) = .ok (ts ++ us.map (shift a.length))) ∧
      ∀ w : String, (∀ c ∈ w.toList, c ∈ blanks) →
        SameScan (scan (a ++ w ++ b)) (scan (a ++ b)) := by
  have hscan := scan_append h
  refine ⟨fun e ha => ?_, fun ts e ha hb => ?_, fun ts us ha hb => ?_,
    fun w hw => sameScan_append_blanks h hw⟩
  · rw [hscan, ha]
    rfl
  · rw [hscan, ha, hb]
    rfl
  · rw [hscan, ha, hb]
    rfl

/-- `scan_compositional` for a point that ends a numeral in front of the cut, and one behind it that
no digit goes before. -/
theorem scan_compositional_stray_point :
    (∀ c ∈ "2.".toList.getLast?, ∀ d ∈ "+.5".toList.head?, ¬ (isNumeral c ∧ isNumeral d)) ∧
      scan ("2." ++ "+.5") = .error (.unexpectedCharacter "." 3) ∧
      SameScan (scan ("2." ++ " \t" ++ "+.5")) (.error (.unexpectedCharacter "." 3)) := by
  have hcut : ∀ c ∈ "2.".toList.getLast?, ∀ d ∈ "+.5".toList.head?,
      ¬ (isNumeral c ∧ isNumeral d) := by simp [isNumeral, Char.isDigit]
  have ha : scan "2." = .ok [ofNumeral ['2', '.'] 0] := scan_eq_ok_iff.mpr ⟨by decide, rfl⟩
  have hb : scan "+.5" = .error (.unexpectedCharacter "." 1) :=
    (scan_eq_readPieces "+.5").trans rfl
  obtain ⟨_, herror, _, hblanks⟩ := scan_compositional "2." "+.5" hcut
  have hscan := herror _ _ ha hb
  exact ⟨hcut, hscan, hscan ▸ hblanks " \t" (by simp [blanks])⟩

end Cuts

end Reckoner.Token
