import Reckoner.Proofs.ShortestText
import Reckoner.Proofs.Spacing

/-!
# Listed tokens as a line

The listing of the tokens of a line can be read as a line again, if all its numbers are such that
they are written without an exponent: zero, and from `10 ^ -4` on all below `10 ^ 16`.  Then it has
the same tokens.  Any other number has the sign of an exponent in its text or is the name of
infinity, and no line has letters in it.

## Key results

- `denotes_text`: the text of a plain number is a numeral with its value
- `scan_shown_of_plain`, `scan_shown_of_not_plain`: what becomes of one token
- `scan_shownAll_cons`: listed tokens are scanned one by one
- `shownAll_reread`: which listings can be read again
-/

namespace Reckoner

open Binary64

namespace Number

open Decimal (value pointed leading shortest smallRank)

/-! ## Plain numbers -/

/-- Zero, or a number from the double nearest to `10 ^ -4` on and below `10 ^ 16`. -/
def IsPlain (x : Float) : Prop :=
  x.isFinite ∧
    (exact x = 0 ∨ (∃ y, RoundsTo (1 / 10 ^ 4) y ∧ exact y ≤ exact x) ∧ exact x < 10 ^ 16)

section Plain

variable {x : Float} {n : Nat}

/-- There is one double that `10 ^ -4` is rounded to, that of `smallRank`. -/
theorem exists_small_le_iff (q : ℚ) :
    (∃ y, RoundsTo (1 / 10 ^ 4) y ∧ exact y ≤ q) ↔ rankValue smallRank ≤ q := by
  have hrank : smallRank < infinityRank := by decide +kernel
  have hexact : exact (ofRank false smallRank) = rankValue smallRank := by
    rw [exact_ofRank false hrank, signFactor_false, one_mul]
  constructor
  · rintro ⟨y, hy, hle⟩
    rw [roundsTo_smallRank.iff_beq, beq_ofRank_iff y false hrank.le] at hy
    -- The doubles that are equal to it have its rank, as it is not zero.
    obtain ⟨s, rfl, hzero | rfl⟩ := hy
    · exact absurd hzero (by decide +kernel)
    · rwa [← hexact]
  · intro hle
    exact ⟨_, roundsTo_smallRank, hexact.trans_le hle⟩

/-- `IsPlain`, said of the rank. -/
theorem isPlain_iff (hx : datum x = .finite false n) :
    IsPlain x ↔ n = 0 ∨ rankValue smallRank ≤ rankValue n ∧ rankValue n < 10 ^ 16 := by
  have hfinite : x.isFinite := (isFinite_iff x).mpr ⟨false, n, hx⟩
  have hexact : exact x = rankValue n := by
    rw [exact_of_datum hx, signFactor_false, one_mul]
  have hzero : rankValue n = 0 ↔ n = 0 := by
    rw [← rankValue_zero]
    exact rankValue_strictMono.injective.eq_iff
  rw [IsPlain, and_iff_right hfinite, hexact, exists_small_le_iff, hzero]

/-- A whole number that `text` writes in full is plain. -/
theorem isPlain_of_whole (hx : datum x = .finite false n) (h : IsShortWhole n) : IsPlain x := by
  rw [isPlain_iff hx]
  rcases Nat.eq_zero_or_pos n with hzero | hn
  · exact Or.inl hzero
  -- A whole number that is not zero is one at least.
  have hone : unitsPerOne ≤ units n :=
    Nat.le_of_dvd (units_pos_iff.mpr hn) (Nat.dvd_of_mod_eq_zero h.1)
  have hsmall : units smallRank ≤ unitsPerOne := by decide +kernel
  refine Or.inr ⟨?_, (rankValue_lt_iff n).mpr h.2⟩
  rw [rankValue, rankValue, div_le_div_iff_of_pos_right unitsPerOne_cast_pos]
  exact_mod_cast hsmall.trans hone

/-- What `text` does not write in full as a whole number is plain if its `shortest` decimal is
written positionally. -/
theorem isPlain_iff_of_not_whole (hx : datum x = .finite false n) (h : ¬ IsShortWhole n) :
    IsPlain x ↔ -4 ≤ leading (shortest n) ∧ leading (shortest n) < 16 := by
  have hn := pos_of_not_whole h
  rw [isPlain_iff hx, leading_shortest_iff hn (eq_ofRank_of_datum hx).2,
    or_iff_right (Nat.ne_of_gt hn)]

/-! ## Texts of numbers -/

/-- Digits and a point with digits, unless there are none, denote what `value?` has for them. -/
theorem exists_denotes_digits {whole fraction : List Char} (hwhole : Token.IsDigits whole)
    (hfraction : ∀ c ∈ fraction, c.isDigit) :
    ∃ q, Token.Denotes (whole ++ pointed fraction) q ∧
      value? (whole ++ pointed fraction) = some q := by
  have hvalue := value?_sign_append false hwhole.1 hwhole.2 hfraction
  rw [signFactor_false, one_mul] at hvalue
  refine ⟨_, ?_, hvalue⟩
  -- A numeral has a point if there are digits behind it.
  by_cases hne : fraction = []
  · subst hne
    simpa using Token.Denotes.whole hwhole
  · rw [Decimal.pointed_of_ne_nil hne]
    exact .pointed hwhole hfraction

/-- `text` writes a plain number in digits with at most one point. -/
theorem text_of_plain (hx : datum x = .finite false n) (h : IsPlain x) :
    ∃ whole fraction, (text x).toList = whole ++ pointed fraction ∧ Token.IsDigits whole ∧
      ∀ c ∈ fraction, c.isDigit := by
  by_cases hwhole : IsShortWhole n
  · refine ⟨Nat.toDigits 10 (units n / unitsPerOne), [], ?_,
      ⟨Nat.toDigits_ne_nil, Decimal.isDigit_toDigits _⟩, List.forall_mem_nil _⟩
    rw [toList_text hx, toList_magnitudeText_of_whole hwhole]
    simp [sign]
  · have hd := (isPlain_iff_of_not_whole hx hwhole).mp h
    have hexponent := exponent_shortest_neg_of_leading hwhole (eq_ofRank_of_datum hx).2 hd
    obtain ⟨whole, fraction, hsplit⟩ := Decimal.exists_isSplit hd hexponent
    refine ⟨whole, fraction, ?_, ⟨hsplit.whole_ne_nil, hsplit.isDigit_whole⟩,
      hsplit.isDigit_fraction⟩
    rw [toList_text_of_not_whole hx hwhole, hsplit.text_eq]
    simp [sign]

/-- `text` of a plain number is a numeral with this number as its value. -/
theorem denotes_text (hx : datum x = .finite false n) (h : IsPlain x) :
    ∃ q, Token.Denotes (text x).toList q ∧ ofNumeral (text x).toList = x := by
  obtain ⟨whole, fraction, htext, hwhole, hfraction⟩ := text_of_plain hx h
  obtain ⟨q, hq, hvalue⟩ := exists_denotes_digits hwhole hfraction
  rw [← htext] at hq hvalue
  obtain ⟨q', hvalue', hround⟩ := exists_roundsTo_text h.1
  obtain rfl : q = q' := Option.some.inj (hvalue.symm.trans hvalue')
  -- The text denotes one number, and this is rounded to one rank.
  obtain ⟨hcovers, _⟩ := (roundsTo_iff_of_datum hx).mp hround
  rw [abs_of_nonneg hq.nonneg] at hcovers
  obtain ⟨m, hm, hcovers'⟩ := hq.exists_covers
  refine ⟨q, hq, ?_⟩
  rw [hm, hcovers'.unique hcovers, ← (eq_ofRank_of_datum hx).1]

/-- `text` writes a finite number that is not plain with an exponent. -/
theorem text_of_not_plain (hx : datum x = .finite false n) (h : ¬ IsPlain x) :
    ∃ whole fraction tail, (text x).toList = (whole ++ pointed fraction) ++ 'e' :: tail ∧
      Token.IsDigits whole ∧ ∀ c ∈ fraction, c.isDigit := by
  have hwhole : ¬ IsShortWhole n := fun hwhole => h (isPlain_of_whole hx hwhole)
  -- What is not plain has its leading digit beyond the two bounds.
  have hd := mt (isPlain_iff_of_not_whole hx hwhole).mpr h
  obtain ⟨first, fraction, htext, hdigits⟩ := Decimal.layout_exponential hd
  have hall := Decimal.isDigit_toDigits (shortest n).digits
  rw [← hdigits] at hall
  obtain ⟨hfirst, hfraction⟩ := List.forall_mem_cons.mp hall
  have htext' := toList_text_of_not_whole hx hwhole
  rw [htext, Decimal.toList_exponentText] at htext'
  exact ⟨[first], fraction, _, htext', ⟨List.cons_ne_nil _ _, List.forall_mem_singleton.mpr hfirst⟩,
    hfraction⟩

end Plain

end Number

namespace Token

/-! ## One token -/

/-- The value of the token, if it has one, is plain. -/
def Plain (t : Token) : Prop := ∀ v ∈ t.value, Number.IsPlain v

section One

variable {t : Token} {c : Char}

/-- `shown` of a number is the `text` of its value. -/
theorem shown_of_number {v : Float} (hk : t.kind = .number) (hv : t.value = some v) :
    t.shown = Number.text v := by
  simp [shown, hk, hv]

/-- `shown` of a token without a value is its text. -/
theorem shown_of_value_eq_none (hv : t.value = none) : t.shown = t.text := by
  simp [shown, hv]

/-- `scan` reads an operator as a line with one token. -/
theorem scan_of_ofOperator? {kind : Kind} (h : Kind.ofOperator? c = some kind) :
    scan (String.ofList [c]) = .ok [ofOperator kind c 0] := by
  have hsign : c ∈ signs := (isSome_ofOperator?_iff c).mp (by rw [h]; rfl)
  have hc : isNumeral c = false := isNumeral_of_mem_signs c hsign
  rw [scan_eq_readPieces, pieces, String.toList_ofList, piecesFrom_cons_of_other hc,
    readPieces_cons_of_legible ((Piece.legible_single hc 0).mpr (Or.inr hsign)),
    Piece.token?_single hc, h]
  rfl

/-- `scan` fails at once on a line that starts with either of the letters. -/
theorem scan_letter (hc : c = 'e' ∨ c = 'i') (tail : List Char) :
    scan (String.ofList (c :: tail)) = .error (.unexpectedCharacter (String.ofList [c]) 0) := by
  rw [scan, String.toList_ofList, scanFrom]
  rcases hc with rfl | rfl <;> rfl

/-- `scan` reads a numeral with an exponent behind it up to the exponent. -/
theorem scan_append_exponent {run : List Char} {q : ℚ} (h : Denotes run q) (tail : List Char) :
    scan (String.ofList (run ++ 'e' :: tail)) =
      .error (.unexpectedCharacter (String.ofList ['e']) run.length) := by
  rw [String.ofList_append, scan_append, scan_of_denotes h, scan_letter (Or.inl rfl),
    String.length_ofList]
  · simp [Except.bind, shiftScan, LexError.shift, Except.map]
  · -- The line can be cut there, for no numeral goes on with a letter.
    intro a _ d hd
    rw [String.toList_ofList] at hd
    obtain rfl : 'e' = d := Option.some.inj hd
    simp [isNumeral]

/-- `scan` reads a plain number or an operator again as it is `shown`. -/
theorem scan_shown_of_plain (ht : FromLine t) (hp : t.Plain) :
    ∃ u, scan t.shown = .ok [u] ∧ u.symbol = t.symbol := by
  -- A token of a line is a number that is not negative, or an operator.
  rcases ht.cases with ⟨n, hn, hk, hv⟩ | ⟨c, hc, htext, hv⟩
  · have hplain : Number.IsPlain (ofRank false n) := hp _ hv
    -- A plain number is finite.
    have hlt : n < infinityRank := by
      refine lt_of_le_of_ne hn ?_
      rintro rfl
      obtain ⟨s, m, hx⟩ := (isFinite_iff _).mp hplain.1
      rw [datum_ofRank_infinityRank] at hx
      cases hx
    obtain ⟨q, hq, hvalue⟩ := Number.denotes_text (datum_ofRank false hlt) hplain
    rw [← shown_of_number hk hv] at hq hvalue
    have hscan := scan_of_denotes hq
    rw [String.ofList_toList] at hscan
    refine ⟨_, hscan, ?_⟩
    rw [symbol_of_number hk hv]
    simp only [symbol, ofNumeral, hvalue, ↓reduceIte]
  · refine ⟨ofOperator t.kind c 0, ?_, ?_⟩
    · rw [shown_of_value_eq_none hv, htext, scan_of_ofOperator? hc]
    · have hne := ne_number_of_ofOperator? hc
      simp [symbol, ofOperator, hne]

/-- `scan` fails on any other number as it is `shown`, at a letter in its text. -/
theorem scan_shown_of_not_plain (ht : FromLine t) (hp : ¬ t.Plain) :
    ∃ front c back, t.shown.toList = front ++ c :: back ∧ (c = 'e' ∨ c = 'i') ∧
      scan t.shown = .error (.unexpectedCharacter (String.ofList [c]) front.length) := by
  rcases ht.cases with ⟨n, hn, hk, hv⟩ | ⟨_, _, _, hv⟩
  · rw [shown_of_number hk hv]
    -- A finite number has an exponent, and infinity has its name.
    rcases Nat.lt_or_eq_of_le hn with hlt | rfl
    · have hplain : ¬ Number.IsPlain (ofRank false n) := fun h => hp fun v hv' => by
        rw [hv] at hv'
        rwa [← Option.some.inj hv']
      obtain ⟨whole, fraction, tail, htext, hwhole, hfraction⟩ :=
        Number.text_of_not_plain (datum_ofRank false hlt) hplain
      obtain ⟨q, hq, _⟩ := Number.exists_denotes_digits hwhole hfraction
      have hscan := scan_append_exponent hq tail
      rw [← htext, String.ofList_toList] at hscan
      exact ⟨_, 'e', tail, htext, Or.inl rfl, hscan⟩
    · rw [Number.text_of_infinite (datum_ofRank_infinityRank false), if_neg (by decide)]
      exact ⟨[], 'i', ['n', 'f'], rfl, Or.inr rfl, scan_letter (Or.inr rfl) ['n', 'f']⟩
  · exact absurd (fun v hv' => by rw [hv] at hv'; cases hv') hp

end One

/-! ## All tokens -/

section All

variable {t : Token} {tokens : List Token}

/-- `shownAll` puts a space between tokens. -/
theorem shownAll_cons_of_ne_nil (h : tokens ≠ []) :
    shownAll (t :: tokens) = t.shown ++ " " ++ shownAll tokens := by
  have hne : tokens.map shown ≠ [] := by simpa using h
  rw [shownAll, List.map_cons, String.intercalate_cons_of_ne_nil hne]
  rfl

/-- `scan` reads the tokens of `shownAll` one by one. -/
theorem scan_shownAll_cons (t : Token) (tokens : List Token) :
    scan (shownAll (t :: tokens)) =
      (scan t.shown).bind fun us =>
        (shiftScan (t.shown.length + 1 : Nat) (scan (shownAll tokens))).map fun others =>
          us ++ others := by
  -- The last token has no space behind it.
  by_cases h : tokens = []
  · subst h
    have hnil : scan (shownAll []) = .ok [] := scan_of_blanks (by simp [shownAll])
    have hsingle : shownAll [t] = t.shown := String.intercalate_singleton
    rw [hnil, hsingle]
    cases scan t.shown <;> simp [Except.bind, shiftScan, Except.map]
  · rw [shownAll_cons_of_ne_nil h, scan_append_blank]

/-- `scan` reads plain numbers and operators again as `shownAll` lists them. -/
theorem scan_shownAll_of_plain (h : ∀ t ∈ tokens, FromLine t) (hp : ∀ t ∈ tokens, t.Plain) :
    ∃ us, scan (shownAll tokens) = .ok us ∧ us.map symbol = tokens.map symbol := by
  -- On the tokens, which are separated by blanks.
  induction tokens with
  | nil => exact ⟨[], scan_of_blanks (by simp [shownAll]), rfl⟩
  | cons t tokens ih =>
    obtain ⟨ht, h⟩ := List.forall_mem_cons.mp h
    obtain ⟨htp, hp⟩ := List.forall_mem_cons.mp hp
    obtain ⟨u, hu, hsymbol⟩ := scan_shown_of_plain ht htp
    obtain ⟨us, hus, hsymbols⟩ := ih h hp
    -- The first is read where it was, and the others further on.
    refine ⟨[u] ++ us.map (shift (t.shown.length + 1 : Nat)), ?_, ?_⟩
    · rw [scan_shownAll_cons, hu, hus]
      rfl
    · rw [List.map_append, map_symbol_map_shift, hsymbols, List.map_singleton, hsymbol]
      rfl

/-- What stands in front of a token in a listing: the tokens before it, each with a space behind it.
-/
def lead : List Token → String
  | [] => ""
  | t :: before => t.shown ++ " " ++ lead before

/-- The listing of `shownAll` fails at a letter in the text of the first number that is not plain.
-/
structure FailsIn (tokens before : List Token) (t : Token) : Prop where
  plain_before : ∀ b ∈ before, b.Plain
  not_plain : ¬ t.Plain
  token_at : ∃ after, tokens = before ++ t :: after
  text_at : ∃ trail, shownAll tokens = lead before ++ t.shown ++ trail
  failure : ∃ front c back, t.shown.toList = front ++ c :: back ∧ (c = 'e' ∨ c = 'i') ∧
    scan (shownAll tokens) =
      .error (.unexpectedCharacter (String.ofList [c]) ((lead before).length + front.length : Nat))

/-- `shownAll` fails in its first number if that is not plain. -/
theorem failsIn_head (ht : FromLine t) (hp : ¬ t.Plain) (tokens : List Token) :
    FailsIn (t :: tokens) [] t where
  plain_before := List.forall_mem_nil _
  not_plain := hp
  token_at := ⟨tokens, rfl⟩
  text_at := by
    by_cases h : tokens = []
    · subst h
      exact ⟨"", by simp [lead, shownAll]⟩
    · exact ⟨" " ++ shownAll tokens, by simp [lead, shownAll_cons_of_ne_nil h, String.append_assoc]⟩
  failure := by
    -- Nothing is in front of the first token, so the failure keeps its place.
    obtain ⟨front, c, back, htext, hc, hscan⟩ := scan_shown_of_not_plain ht hp
    refine ⟨front, c, back, htext, hc, ?_⟩
    rw [scan_shownAll_cons, hscan]
    simp [Except.bind, lead]

/-- A listing that fails also fails behind one more token, as much further on. -/
theorem FailsIn.cons {before : List Token} {b : Token} (h : FailsIn tokens before t)
    (hb : FromLine b) (hp : b.Plain) : FailsIn (b :: tokens) (b :: before) t where
  plain_before := List.forall_mem_cons.mpr ⟨hp, h.plain_before⟩
  not_plain := h.not_plain
  token_at := by
    obtain ⟨after, rfl⟩ := h.token_at
    exact ⟨after, rfl⟩
  text_at := by
    obtain ⟨after, hafter⟩ := h.token_at
    obtain ⟨trail, htrail⟩ := h.text_at
    have hne : tokens ≠ [] := by simp [hafter]
    exact ⟨trail, by simp [lead, shownAll_cons_of_ne_nil hne, htrail, String.append_assoc]⟩
  failure := by
    obtain ⟨front, c, back, htext, hc, hscan⟩ := h.failure
    obtain ⟨u, hu, _⟩ := scan_shown_of_plain hb hp
    -- The failure moves on by the text of the token and the space behind it.
    have hlead : (lead (b :: before)).length = b.shown.length + 1 + (lead before).length := by
      rw [lead, String.length_append, String.length_append]
      rfl
    refine ⟨front, c, back, htext, hc, ?_⟩
    rw [scan_shownAll_cons, hu, hscan, hlead]
    simp only [Except.bind, shiftScan, LexError.shift, Except.map]
    congr 2
    omega

/-- If a number is not plain, the first such makes `shownAll` fail. -/
theorem exists_failsIn (h : ∀ t ∈ tokens, FromLine t) (hp : ∃ t ∈ tokens, ¬ t.Plain) :
    ∃ before t, FailsIn tokens before t := by
  induction tokens with
  | nil => simp at hp
  | cons b tokens ih =>
    obtain ⟨hb, h⟩ := List.forall_mem_cons.mp h
    -- Plain numbers are passed until the first that is not.
    by_cases hplain : b.Plain
    · obtain ⟨t, ht, htp⟩ := hp
      rcases List.mem_cons.mp ht with rfl | ht
      · exact absurd hplain htp
      · obtain ⟨before, t, hfails⟩ := ih h ⟨t, ht, htp⟩
        exact ⟨b :: before, t, hfails.cons hb hplain⟩
    · exact ⟨[], b, failsIn_head hb hplain tokens⟩

end All

/-! ## Readings -/

/-- `shownAll` of plain numbers and operators is a line with the same tokens, and `parseAll` reads
it as trees that are alike or fails alike.  If a number is not plain, `scan` fails on the listing at
a letter of the first such. -/
theorem shownAll_reread {source : String} {tokens : List Token} (hscan : scan source = .ok tokens) :
    ((∀ t ∈ tokens, t.Plain) → ∃ us, scan (shownAll tokens) = .ok us ∧ SameTokens us tokens ∧
      Expr.SameParse (Expr.parseAll us) (Expr.parseAll tokens)) ∧
    ((∃ t ∈ tokens, ¬ t.Plain) → ∃ before t, FailsIn tokens before t) := by
  have h := fromLine_of_scan hscan
  refine ⟨fun hp => ?_, exists_failsIn h⟩
  obtain ⟨us, hus, hsymbols⟩ := scan_shownAll_of_plain h hp
  have hsame := sameTokens_of_symbols (fromLine_of_scan hus) h hsymbols
  exact ⟨us, hus, hsame, Expr.sameParse_of_sameTokens hsame⟩

/-- `shownAll_reread` for the largest whole number that is listed in full, and for one more, which
is rounded up. -/
theorem shownAll_reread_large :
    let below := [ofNumeral "9999999999999998".toList 0, ofOperator .slash '/' 16,
      ofNumeral "3".toList 17]
    let beyond := [ofNumeral "3".toList 0, ofNumeral "9999999999999999".toList 2]
    scan "9999999999999998/3" = .ok below ∧
      (∃ us, scan (shownAll below) = .ok us ∧ SameTokens us below ∧
        Expr.SameParse (Expr.parseAll us) (Expr.parseAll below)) ∧
      scan "3 9999999999999999" = .ok beyond ∧ ∃ before t, FailsIn beyond before t := by
  intro below beyond
  have hbelow : scan "9999999999999998/3" = .ok below := scan_eq_ok_iff.mpr ⟨by decide +kernel, rfl⟩
  have hbeyond : scan "3 9999999999999999" = .ok beyond :=
    scan_eq_ok_iff.mpr ⟨by decide +kernel, rfl⟩
  -- `9999999999999998` is the double before `10 ^ 16`, and `9999999999999999` is rounded up to
  -- that.
  have hmost : datum (Number.ofNumeral "9999999999999998".toList) =
      .finite false (Decimal.largeRank - 1) := by decide +kernel
  have hmostWhole : Number.IsShortWhole (Decimal.largeRank - 1) :=
    ⟨by decide +kernel, by decide +kernel⟩
  have hthree : datum (Number.ofNumeral "3".toList) = .finite false (Decimal.rank ⟨3, 0⟩) := by
    decide +kernel
  have hthreeWhole : Number.IsShortWhole (Decimal.rank ⟨3, 0⟩) :=
    ⟨by decide +kernel, by decide +kernel⟩
  have hup : datum (Number.ofNumeral "9999999999999999".toList) =
      .finite false Decimal.largeRank := by
    decide +kernel
  have hplain : ∀ t ∈ below, t.Plain := by
    rintro t ht v hv
    simp only [below, List.mem_cons, List.not_mem_nil, or_false] at ht
    rcases ht with rfl | rfl | rfl
    · obtain rfl : Number.ofNumeral "9999999999999998".toList = v := Option.some.inj hv
      exact Number.isPlain_of_whole hmost hmostWhole
    · cases hv
    · obtain rfl : Number.ofNumeral "3".toList = v := Option.some.inj hv
      exact Number.isPlain_of_whole hthree hthreeWhole
  have hlarge : ∃ t ∈ beyond, ¬ t.Plain := by
    refine ⟨ofNumeral "9999999999999999".toList 2, by simp [beyond], fun hp => ?_⟩
    have hbound := (Number.isPlain_iff hup).mp (hp _ rfl)
    rw [Decimal.rankValue_largeRank] at hbound
    rcases hbound with hzero | ⟨_, hlt⟩
    · exact absurd hzero (by decide)
    · exact lt_irrefl _ hlt
  exact ⟨hbelow, (shownAll_reread hbelow).1 hplain, hbeyond, (shownAll_reread hbeyond).2 hlarge⟩

end Token

end Reckoner
