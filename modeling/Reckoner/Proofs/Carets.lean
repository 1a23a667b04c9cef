import Reckoner.Proofs.Blanks
import Reckoner.Proofs.LineResults
import Reckoner.Proofs.NumeralValues
import Reckoner.Proofs.ShortestText

/-!
# Where carets point

The report of what cannot be read in a line shows the line below its header, and a caret below that.
The caret stands as many columns in as there are characters of the line in front of what the report
is about, so it points there if the line is shown in one piece.  A line feed may stand between two
tokens, though, and a line that has one is shown in several.

## Key results

- `oneLine_quoted`: quoted text has no line feed in it
- `exists_split_stripLineEnd`: what is not blank keeps its place when the end of the line is dropped
- `exists_foundAt`: the reports with a position, and what stands there
- `report_points`: the lines of such a report, and the column that the caret is in
-/

namespace Reckoner

/-! ## Texts of one line -/

namespace Text

/-- There is no line feed in the text, so that `splitOn` leaves it in one piece. -/
def OneLine (s : String) : Prop := '\n' ∉ s.toList

instance (s : String) : Decidable (OneLine s) := by unfold OneLine; infer_instance

/-- Joined texts are `OneLine` if both parts are. -/
@[simp] theorem oneLine_append (s t : String) : OneLine (s ++ t) ↔ OneLine s ∧ OneLine t := by
  simp [OneLine]

/-- Hexadecimal `toDigits` are no line feeds. -/
theorem ne_of_mem_toDigits {n : Nat} : ∀ c ∈ Nat.toDigits 16 n, c ≠ '\n' := by
  induction n using Nat.strongRecOn with
  | ind n ih =>
    have hdigit : ∀ m, Nat.digitChar m ≠ '\n' := fun m => Nat.digitChar_ne '\n' rfl
    -- The last digit is split off, and what is in front of it belongs to a smaller number.
    rw [Nat.toDigits_eq_if (by decide)]
    split
    · exact List.forall_mem_singleton.mpr (hdigit n)
    · refine List.forall_mem_append.mpr ⟨ih (n / 16) (by omega), ?_⟩
      exact List.forall_mem_singleton.mpr (hdigit (n % 16))

/-- `hexDigits`, with the zeros in front of them, are no line feeds. -/
theorem ne_of_mem_hexDigits {width n : Nat} : ∀ c ∈ hexDigits width n, c ≠ '\n' := by
  refine List.forall_mem_append.mpr ⟨fun c hc => ?_, ne_of_mem_toDigits⟩
  rw [List.eq_of_mem_replicate hc]
  decide

/-- `quoteChar` writes no line feed, whichever of its cases applies. -/
theorem ne_of_mem_quoteChar {quote : Char} (hquote : quote ≠ '\n') (c : Char) :
    ∀ d ∈ quoteChar quote c, d ≠ '\n' := by
  -- A character behind a backslash, and one that is written by its code.
  have hescape : ∀ letter, letter ≠ '\n' → ∀ d ∈ ['\\', letter], d ≠ '\n' := by
    intro letter hletter
    simp [hletter]
  have hcode : ∀ letter width, letter ≠ '\n' →
      ∀ d ∈ '\\' :: letter :: hexDigits width c.toNat, d ≠ '\n' := by
    intro letter width hletter
    refine List.forall_mem_cons.mpr ⟨by decide, List.forall_mem_cons.mpr ⟨hletter, ?_⟩⟩
    exact ne_of_mem_hexDigits
  unfold quoteChar
  split_ifs with hself hfeed
  · -- A line feed is not the quote and not a backslash.
    refine hescape c ?_
    rintro rfl
    simp [hquote.symm] at hself
  · exact hescape 'n' (by decide)
  · exact hescape 'r' (by decide)
  · exact hescape 't' (by decide)
  · exact List.forall_mem_singleton.mpr hfeed
  · exact hcode 'x' 2 (by decide)
  · exact hcode 'u' 4 (by decide)
  · exact hcode 'U' 8 (by decide)

/-- `quoted` text is `OneLine`, whatever is quoted. -/
theorem oneLine_quoted (s : String) : OneLine (quoted s) := by
  have hquote : quoteFor s.toList ≠ '\n' := by
    unfold quoteFor
    split <;> decide
  have hinside : '\n' ∉ s.toList.flatMap (quoteChar (quoteFor s.toList)) := by
    intro h
    obtain ⟨c, _, hc⟩ := List.mem_flatMap.mp h
    exact ne_of_mem_quoteChar hquote c _ hc rfl
  simp [OneLine, quoted, hinside, hquote.symm]

/-- The text of a whole number is `OneLine`. -/
theorem oneLine_toString (z : Int) : OneLine (toString z) := by
  rw [OneLine, Number.toList_toString_int, List.mem_append, not_or]
  constructor
  · cases decide (z < 0) <;> decide
  · intro h
    exact absurd (Decimal.isDigit_toDigits _ _ h) (by decide)

/-! ## Dropping the end of a line -/

/-- `dropLastWhile` does not touch what is in front of the last character that stays. -/
theorem exists_dropLastWhile_append {p : Char → Bool} {cs : List Char}
    (h : ∀ c ∈ cs.getLast?, ¬ p c) (ds : List Char) :
    ∃ rest, dropLastWhile p (cs ++ ds) = cs ++ rest := by
  rw [dropLastWhile, List.reverse_append, List.dropWhile_append]
  split
  · -- Nothing behind it stays.
    refine ⟨[], ?_⟩
    rw [List.append_nil]
    exact List.rdropWhile_eq_self_iff.mpr fun hne => h _ (List.getLast?_eq_some_getLast hne)
  · exact ⟨_, by rw [List.reverse_append, List.reverse_reverse]⟩

/-- A character that `stripLineEnd` drops. -/
def isLineEnd (c : Char) : Bool := c == '\n' || c == '\r'

/-- What is not blank stays in its place when `stripLineEnd` drops the end of the line. -/
theorem exists_split_stripLineEnd {source : String} {start : Nat} {cs : List Char} (hne : cs ≠ [])
    (hcs : ∀ c ∈ cs, ¬ isLineEnd c) (h : cs <+: source.toList.drop start) :
    ∃ before after, (stripLineEnd source).toList = before ++ cs ++ after ∧
      before.length = start := by
  obtain ⟨tail, htail⟩ := h
  have hstart : start < source.toList.length := by
    by_contra hle
    rw [List.drop_eq_nil_of_le (by omega)] at htail
    exact hne (List.append_eq_nil_iff.mp htail).1
  have hsource : source.toList = source.toList.take start ++ cs ++ tail := by
    rw [List.append_assoc, htail, List.take_append_drop]
  have hlast : ∀ c ∈ (source.toList.take start ++ cs).getLast?, ¬ isLineEnd c := by
    intro c hc
    rw [List.getLast?_append_of_ne_nil _ hne] at hc
    exact hcs c (List.mem_of_getLast? hc)
  -- The last character of it stays, and so does all in front.
  obtain ⟨after, hafter⟩ := exists_dropLastWhile_append hlast tail
  refine ⟨source.toList.take start, after, ?_, ?_⟩
  · have hline : (stripLineEnd source).toList = dropLastWhile isLineEnd source.toList :=
      String.toList_ofList
    rw [hline, ← hafter, ← hsource]
  · rw [List.length_take]
    omega

end Text

open Text (OneLine isLineEnd stripLineEnd)

/-! ## What is wrong, and where -/

namespace Token

/-- A character of a numeral does not end a line. -/
theorem not_isLineEnd_of_isNumeral {c : Char} (h : isNumeral c) : ¬ isLineEnd c := by
  intro hend
  simp only [isLineEnd, Bool.or_eq_true, beq_iff_eq] at hend
  rcases hend with rfl | rfl <;> cases h

/-- Only `blanks` end lines. -/
theorem not_isLineEnd_of_notMem_blanks {c : Char} (h : c ∉ blanks) : ¬ isLineEnd c := by
  intro hend
  simp only [isLineEnd, Bool.or_eq_true, beq_iff_eq] at hend
  rcases hend with rfl | rfl <;> exact h (by decide)

/-- `stripLineEnd` does not take the text of a token for the end of a line. -/
theorem FromLine.not_isLineEnd {t : Token} (h : FromLine t) :
    ∀ c ∈ t.text.toList, ¬ isLineEnd c := by
  cases h with
  | @numeral run q pos hq =>
    obtain ⟨c, rest, hrun, hdigit, hrest⟩ := hq.isNumeral_run
    have htext : (ofNumeral run pos).text.toList = c :: rest := by
      rw [← hrun]
      exact String.toList_ofList
    rw [htext]
    refine List.forall_mem_cons.mpr ⟨not_isLineEnd_of_isNumeral (by simp [isNumeral, hdigit]), ?_⟩
    exact fun d hd => not_isLineEnd_of_isNumeral (hrest d hd)
  | @operator kind c pos hkind =>
    have htext : (ofOperator kind c pos).text.toList = [c] := String.toList_ofList
    rw [htext]
    refine List.forall_mem_singleton.mpr fun hend => ?_
    simp only [isLineEnd, Bool.or_eq_true, beq_iff_eq] at hend
    rcases hend with rfl | rfl <;> cases hkind

/-- The `fault?` of a piece is about its first character, or about all of it. -/
theorem Piece.fault?_cases {p : Piece} {err : LexError} (h : p.fault? = some err) :
    ∃ text, (err = .unexpectedCharacter text p.pos ∨ err = .invalidNumber text p.pos) ∧
      text ≠ "" ∧ text.toList <+: p.chars ∧ ∀ c ∈ text.toList, ¬ isLineEnd c := by
  unfold fault? at h
  split at h
  · cases h
  · next c rest hchars =>
    -- A lone point, a run with too many points, and a character that belongs in no line.
    split_ifs at h with hrun hpoint hcount hlegal
    · cases h
      refine ⟨".", Or.inl rfl, by decide, ⟨rest, by rw [hchars, hpoint]; rfl⟩, ?_⟩
      exact List.forall_mem_singleton.mpr (by decide)
    · cases h
      refine ⟨_, Or.inr rfl, ?_, by rw [String.toList_ofList], ?_⟩
      · rw [hchars]
        exact mt String.ofList_eq_empty_iff.mp (List.cons_ne_nil c rest)
      · rw [String.toList_ofList]
        exact fun d hd => not_isLineEnd_of_isNumeral ((isRun_iff p).mp hrun d hd)
    · cases h
      refine ⟨_, Or.inl rfl, ?_, ?_, ?_⟩
      · exact mt String.ofList_eq_empty_iff.mp (List.cons_ne_nil c [])
      · rw [String.toList_ofList, hchars]
        exact ⟨rest, rfl⟩
      · rw [String.toList_ofList]
        refine List.forall_mem_singleton.mpr (not_isLineEnd_of_notMem_blanks ?_)
        exact fun hblank => hlegal (Or.inl hblank)

end Token

/-! ## Wording -/

/-- The message of `unexpectedCharacter` is `OneLine`: what it quotes is. -/
theorem LexError.oneLine_unexpectedCharacter (text : String) (pos : Int) :
    OneLine (LexError.unexpectedCharacter text pos).message := by
  show OneLine ("unexpected character " ++ Text.quoted text ++ " at position " ++ toString pos)
  simp only [Text.oneLine_append]
  exact ⟨⟨⟨by decide, Text.oneLine_quoted text⟩, by decide⟩, Text.oneLine_toString pos⟩

/-- The message of `invalidNumber` is `OneLine`. -/
theorem LexError.oneLine_invalidNumber (text : String) (pos : Int) :
    OneLine (LexError.invalidNumber text pos).message := by
  show OneLine ("invalid number " ++ Text.quoted text ++ " at position " ++ toString pos)
  simp only [Text.oneLine_append]
  exact ⟨⟨⟨by decide, Text.oneLine_quoted text⟩, by decide⟩, Text.oneLine_toString pos⟩

/-- The message of `unexpectedToken` is `OneLine` if what was expected is. -/
theorem ParseError.oneLine_unexpectedToken (text : String) (pos : Int) {expected : String}
    (h : OneLine expected) : OneLine (ParseError.unexpectedToken text pos expected).message := by
  show OneLine ("expected " ++ expected ++ ", found " ++ Text.quoted text ++ " at position " ++
    toString pos)
  simp only [Text.oneLine_append]
  exact ⟨⟨⟨⟨⟨by decide, h⟩, by decide⟩, Text.oneLine_quoted text⟩, by decide⟩,
    Text.oneLine_toString pos⟩

/-- The message of `unexpectedEnd` is `OneLine` if what was expected is. -/
theorem ParseError.oneLine_unexpectedEnd (pos : Option Int) {expected : String}
    (h : OneLine expected) : OneLine (ParseError.unexpectedEnd expected pos).message := by
  show OneLine ("expected " ++ expected ++ ", found end of input")
  simp only [Text.oneLine_append]
  exact ⟨⟨by decide, h⟩, by decide⟩

/-- What a state of the automaton has `expected` is `OneLine`. -/
theorem Grammar.State.oneLine_expected (q : Grammar.State) : OneLine q.expected := by
  cases q <;> decide

/-! ## Positions -/

/-- What an error with a position is about: a text that starts in this column of the line, or the
end of the last token. -/
def Error.PointsAt (tokens : List Token) (line : List Char) (column : Nat) : Error → Prop
  | .lex (.unexpectedCharacter text _) | .lex (.invalidNumber text _)
  | .parse (.unexpectedToken text _ _) => text ≠ "" ∧ text.toList <+: line.drop column
  | .parse (.unexpectedEnd _ _) =>
    ∃ t ∈ tokens.getLast?, t.stop = column ∧ t.text.toList <:+ line.take column
  | _ => False

/-- An error is found in a column of a line. -/
structure Error.FoundAt (source : String) (tokens : List Token) (column : Nat) (error : Error) :
    Prop where
  pos_eq : error.pos? = some (column : Int)
  column_le : column ≤ (stripLineEnd source).length
  oneLine : OneLine error.message
  points : error.PointsAt tokens (stripLineEnd source).toList column

/-- A text stands in a line without its end, as `stripLineEnd` leaves it, behind so many characters.
-/
structure StandsAt (source : String) (start : Nat) (text : String) : Prop where
  ne_empty : text ≠ ""
  starts : text.toList <+: (stripLineEnd source).toList.drop start
  ends : text.toList <:+ (stripLineEnd source).toList.take (start + text.length)
  stop_le : start + text.length ≤ (stripLineEnd source).length

/-- What stands in the source `StandsAt` the same place in the line without its end. -/
theorem standsAt_of_prefix_drop {source text : String} {start : Nat} (hne : text ≠ "")
    (htext : ∀ c ∈ text.toList, ¬ isLineEnd c) (h : text.toList <+: source.toList.drop start) :
    StandsAt source start text := by
  have hne' : text.toList ≠ [] := by simpa using hne
  obtain ⟨before, after, hline, rfl⟩ := Text.exists_split_stripLineEnd hne' htext h
  constructor
  case ne_empty => exact hne
  case starts =>
    rw [hline, List.append_assoc, List.drop_left]
    exact List.prefix_append _ _
  case ends =>
    rw [hline, ← String.length_toList, ← List.length_append, List.take_left]
    exact List.suffix_append _ _
  case stop_le =>
    rw [← String.length_toList, ← String.length_toList, hline]
    simp

/-- A token of `scan` stands in its line at its position. -/
theorem standsAt_of_mem {source : String} {tokens : List Token}
    (h : Token.scan source = .ok tokens) {t : Token} (ht : t ∈ tokens) :
    ∃ start : Nat, t.pos = start ∧ StandsAt source start t.text := by
  obtain ⟨start, hpos, hne, htext⟩ := (Token.laid_of_scan h).text_eq t ht
  have hdrop : t.text.toList <+: source.toList.drop start := by
    rw [htext]
    exact List.take_prefix _ _
  have hend := (Token.fromLine_of_scan h t ht).not_isLineEnd
  exact ⟨start, hpos, standsAt_of_prefix_drop hne hend hdrop⟩

namespace Line

variable {source : String} {tokens : List Token}

/-- The error that `Token.scan` fails with is `FoundAt` a column of the line. -/
theorem foundAt_of_scan_error {e : LexError} (h : Token.scan source = .error e) :
    ∃ column, (Error.lex e).FoundAt source [] column := by
  rw [Token.scan_eq_readPieces, Token.readPieces_eq_error_iff] at h
  -- It is the fault of the first piece that has one, and the piece stands in the line.
  obtain ⟨before, p, after, hpieces, _, hfault⟩ := h
  have hp : p ∈ Token.pieces source := by rw [hpieces]; simp
  obtain ⟨text, herr, hne, hprefix, htext⟩ := Token.Piece.fault?_cases hfault
  obtain ⟨_, rest, _, hdrop⟩ := Token.exists_drop_eq_of_mem_pieces hp
  have hdrop : text.toList <+: source.toList.drop p.pos := by
    rw [hdrop]
    exact hprefix.trans (List.prefix_append _ _)
  have hstands := standsAt_of_prefix_drop hne htext hdrop
  have hle := hstands.stop_le
  refine ⟨p.pos, ?_⟩
  -- Both kinds of faults point at the text that they quote.
  rcases herr with rfl | rfl
  · constructor
    case pos_eq => rfl
    case column_le => omega
    case oneLine => exact LexError.oneLine_unexpectedCharacter text p.pos
    case points => exact And.intro hne hstands.starts
  · constructor
    case pos_eq => rfl
    case column_le => omega
    case oneLine => exact LexError.oneLine_invalidNumber text p.pos
    case points => exact And.intro hne hstands.starts

/-- The `failure` of `Expr.termsOf` is `FoundAt` a column of the line: where an unexpected token
starts, or where the last token ends. -/
theorem foundAt_of_failure (h : Token.scan source = .ok tokens) {err : ParseError}
    (herr : (Expr.termsOf tokens).failure = some err) :
    ∃ column, (Error.parse err).FoundAt source tokens column := by
  have hv := Token.valued_of_scan h
  rcases Expr.exists_failsAt hv herr with ⟨front, t, back, expected, htokens, rfl, _⟩ | ⟨rfl, _⟩
  · obtain ⟨start, hpos, hstands⟩ := standsAt_of_mem h (t := t) (by rw [htokens]; simp)
    have hle := hstands.stop_le
    -- What is expected is named by a state of the automaton.
    have hexpected : OneLine expected := by
      rw [Expr.failure_termsOf hv] at herr
      obtain ⟨_, _, _, q, _, _, _, _, _, rfl⟩ :=
        (Grammar.State.diagnose_eq_unexpectedToken_iff _ _ _ _ _ _).mp herr
      exact q.oneLine_expected
    refine ⟨start, ?_⟩
    constructor
    case pos_eq => exact congrArg some hpos
    case column_le => omega
    case oneLine => exact ParseError.oneLine_unexpectedToken _ _ hexpected
    case points => exact And.intro hstands.ne_empty hstands.starts
  · -- There is a last token, as there is nothing wrong with no tokens.
    have hne : tokens ≠ [] := by
      rintro rfl
      rw [Expr.termsOf, Expr.readTerms] at herr
      cases herr
    obtain ⟨t, ht⟩ := Option.ne_none_iff_exists'.mp (mt List.getLast?_eq_none_iff.mp hne)
    obtain ⟨start, hpos, hstands⟩ := standsAt_of_mem h (List.mem_of_getLast? ht)
    have hstop : t.stop = (start + t.text.length : Nat) := by
      rw [Token.stop, hpos]
      rfl
    have hstopOf : Expr.stopOf tokens = t.stop := by
      rw [Expr.stopOf, ht]
      rfl
    refine ⟨start + t.text.length, ?_⟩
    constructor
    case pos_eq => exact congrArg some (hstopOf.trans hstop)
    case column_le => exact hstands.stop_le
    case oneLine =>
      exact ParseError.oneLine_unexpectedEnd (some (Expr.stopOf tokens)) (by decide)
    case points => exact ⟨t, ht, hstop, hstands.ends⟩

/-- A report of `run` with a position shows the line, and the error is `FoundAt` that position. -/
theorem exists_foundAt {r : Report} (hr : r ∈ (run source).errors) {pos : Int}
    (hpos : r.error.pos? = some pos) :
    ∃ column : Nat, pos = column ∧ r = { error := r.error, context := some ⟨source, column⟩ } ∧
      r.error.FoundAt source (run source).tokens column := by
  obtain ⟨t, ht, hr⟩ := List.mem_filterMap.mp hr
  -- A term that was not read holds the report of its error, with the column that this is found in.
  have hreport : ∀ {error : Error} {column : Nat}, t = .ofError source error →
      error.FoundAt source (run source).tokens column →
      ∃ column : Nat, pos = column ∧ r = { error := r.error, context := some ⟨source, column⟩ } ∧
        r.error.FoundAt source (run source).tokens column := by
    intro error column hterm hfound
    subst hterm
    rw [TermResult.error?_ofError, Report.attach_of_pos? hfound.pos_eq] at hr
    cases hr
    exact ⟨column, Option.some.inj (hpos.symm.trans hfound.pos_eq), rfl, hfound⟩
  -- An error of evaluation has no position, so that two of three cases are left.
  rcases error_cases_of_mem_terms ht hr with ⟨e, hscan, hterm⟩ | ⟨tokens, err, hscan, herr, hterm⟩ |
    ⟨_, _, rfl⟩
  · obtain ⟨column, hfound⟩ := foundAt_of_scan_error hscan
    have htokens : (run source).tokens = [] := by rw [run_of_scan_error hscan]
    rw [← htokens] at hfound
    exact hreport hterm hfound
  · obtain ⟨column, hfound⟩ := foundAt_of_failure hscan herr
    have htokens : (run source).tokens = tokens := by rw [run_of_scan_ok hscan]
    rw [← htokens] at hfound
    exact hreport hterm hfound
  · cases hpos

/-! ## Lines of a report -/

/-- The line with the caret in it, as `Context.text` indents it. -/
def caret (column : Nat) : List Char := List.replicate column ' ' ++ ['^']

/-- The text of a report whose error is `FoundAt` a column, cut into lines: its header, those of the
line that it is about, and the caret. -/
theorem splitOn_text {error : Error} {column : Nat}
    (h : error.FoundAt source tokens column) :
    (Report.text { error, context := some ⟨source, column⟩ }).toList.splitOn '\n' =
      (error.kind ++ ": " ++ error.message).toList ::
        ((stripLineEnd source).toList.splitOn '\n' ++ [caret column]) := by
  have hkind : OneLine error.kind := by cases error <;> simp [Error.kind, OneLine]
  have hheader : OneLine (error.kind ++ ": " ++ error.message) := by
    simp only [Text.oneLine_append]
    exact ⟨⟨hkind, by decide⟩, h.oneLine⟩
  -- The indent is cut off at the end of the line, which the column does not go beyond.
  have hcolumn : min (column : Int).toNat (stripLineEnd source).length = column := by
    rw [Int.toNat_natCast]
    exact Nat.min_eq_left h.column_le
  have htext : (Report.text { error, context := some ⟨source, column⟩ }).toList =
      (error.kind ++ ": " ++ error.message).toList ++
        '\n' :: ((stripLineEnd source).toList ++ '\n' :: caret column) := by
    show (error.kind ++ ": " ++ error.message ++ "\n" ++ Context.text ⟨source, column⟩).toList = _
    rw [Context.text]
    simp only [hcolumn]
    simp [caret]
  have hcaret : '\n' ∉ caret column := by
    simp [caret]
  -- Only the line in the middle can have line feeds of its own.
  rw [htext, List.splitOn_append_cons_self_of_not_mem hheader, List.splitOn_append_cons_self,
    List.splitOn_eq_singleton hcaret]

/-- `splitOn` leaves a text in one piece if it has no line feed, and only then. -/
theorem splitOn_eq_singleton_iff (cs : List Char) : cs.splitOn '\n' = [cs] ↔ '\n' ∉ cs := by
  refine ⟨fun h hmem => ?_, List.splitOn_eq_singleton⟩
  obtain ⟨front, back, rfl⟩ := List.append_of_mem hmem
  have hlength := congrArg List.length h
  rw [List.splitOn_append_cons_self, List.length_append, List.length_singleton] at hlength
  -- A line feed leaves a piece on both sides.
  have hfront := List.length_pos_iff.mpr (List.splitOn_ne_nil '\n' front)
  have hback := List.length_pos_iff.mpr (List.splitOn_ne_nil '\n' back)
  omega

/-- The text of a report of `run` with a position is cut into its header, the line without its end,
and spaces in front of a caret: three lines if no line feed is in the line, and one more for each
that is.  The column of the caret, counted from the start of the line, is where the text starts that
the report is about, or where the last token ends, as `Error.PointsAt` says. -/
theorem report_points {r : Report} (hr : r ∈ (run source).errors) {pos : Int}
    (hpos : r.error.pos? = some pos) :
    let line := (stripLineEnd source).toList
    let header := (r.error.kind ++ ": " ++ r.error.message).toList
    ∃ column : Nat, pos = column ∧ r.error.PointsAt (run source).tokens line column ∧
      r.text.toList.splitOn '\n' = header :: (line.splitOn '\n' ++ [caret column]) ∧
      (r.text.toList.splitOn '\n' = [header, line, caret column] ↔ '\n' ∉ line) := by
  intro line header
  obtain ⟨column, hcolumn, hreport, hfound⟩ := exists_foundAt hr hpos
  have hlines : r.text.toList.splitOn '\n' = header :: (line.splitOn '\n' ++ [caret column]) := by
    rw [hreport]
    exact splitOn_text hfound
  refine ⟨column, hcolumn, hfound.points, hlines, ?_⟩
  have hthree : [header, line, caret column] = header :: ([line] ++ [caret column]) := rfl
  rw [hlines, hthree, ← splitOn_eq_singleton_iff, List.cons_inj_right, List.append_left_inj]

/-- The lines of the report of a character that belongs in no line, by `report_points`. -/
theorem report_points_ampersand :
    ∃ r ∈ (run "3 & 2").errors, r.text.toList.splitOn '\n' =
      ["lex error: unexpected character '&' at position 2".toList, "3 & 2".toList,
        "  ^".toList] := by
  have hscan : Token.scan "3 & 2" = .error (.unexpectedCharacter "&" 2) := by
    rw [Token.scan_eq_readPieces, Token.readPieces_eq_error_iff]
    exact ⟨[⟨0, ['3']⟩, ⟨1, [' ']⟩], ⟨2, ['&']⟩, [⟨3, [' ']⟩, ⟨4, ['2']⟩], rfl, by decide, rfl⟩
  have hr : Report.attach "3 & 2" { error := .lex (.unexpectedCharacter "&" 2) } ∈
      (run "3 & 2").errors := by
    rw [run_of_scan_error hscan]
    exact List.mem_singleton_self _
  obtain ⟨column, hcolumn, _, _, hlines⟩ := report_points hr rfl
  obtain rfl : column = 2 := (Int.natCast_inj.mp hcolumn).symm
  exact ⟨_, hr, (hlines.mpr (by decide)).trans (by decide +kernel)⟩

/-- The report of an error in a line with a line feed between its tokens shows the line in two, so
that the caret is in a fourth line. -/
theorem not_forall_three_lines :
    ¬ ∀ source, ∀ r ∈ (run source).errors, ∀ pos, r.error.pos? = some pos →
      (r.text.toList.splitOn '\n').length = 3 := by
  intro h
  have hscan : Token.scan "1\n& 2" = .error (.unexpectedCharacter "&" 2) := by
    rw [Token.scan_eq_readPieces, Token.readPieces_eq_error_iff]
    exact ⟨[⟨0, ['1']⟩, ⟨1, ['\n']⟩], ⟨2, ['&']⟩, [⟨3, [' ']⟩, ⟨4, ['2']⟩], rfl, by decide, rfl⟩
  have hr : Report.attach "1\n& 2" { error := .lex (.unexpectedCharacter "&" 2) } ∈
      (run "1\n& 2").errors := by
    rw [run_of_scan_error hscan]
    exact List.mem_singleton_self _
  exact absurd (h _ _ hr 2 rfl) (by decide +kernel)

end Line

end Reckoner
