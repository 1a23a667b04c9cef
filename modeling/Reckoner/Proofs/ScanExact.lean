import Reckoner.Proofs.Pieces

/-!
# Tokens and the text they are read from

A line is scanned exactly: it has tokens if and only if every piece is legible, and these are then
the runs and the signs among its pieces, each with the text that stands in its place.  Where a line
has no tokens, its first illegible piece alone says why.

## Key results

- `pairwise_apart`: pieces do not overlap, and something stands between any two runs
- `exists_piece_at`: every character of a line is in a piece
- `laid_of_scan`: how tokens lie in the line that they were read from
- `scan_eq_ok_iff`, `readPieces_eq_error_iff`: which lines have tokens, and what is wrong with
  others
-/

namespace Reckoner.Token

/-! ## Places of pieces -/

namespace Piece

/-- `place` keeps the parts that it gives places to. -/
theorem map_chars_place (pos : Nat) (parts : List (List Char)) :
    (place pos parts).map chars = parts := by
  induction parts generalizing pos with
  | nil => rfl
  | cons part parts ih => rw [place, List.map_cons, ih]

/-- A piece of `place` is a part of the text, behind as many characters as its position says. -/
theorem exists_append_of_mem_place {pos : Nat} {parts : List (List Char)} {p : Piece}
    (h : p ∈ place pos parts) :
    ∃ before after, parts = before ++ p.chars :: after ∧ p.pos = pos + before.flatten.length := by
  induction parts generalizing pos with
  | nil => cases h
  | cons part parts ih =>
    rcases List.mem_cons.mp h with rfl | h
    · exact ⟨[], parts, rfl, rfl⟩
    · obtain ⟨before, after, rfl, hpos⟩ := ih h
      refine ⟨part :: before, after, rfl, ?_⟩
      rw [hpos, List.flatten_cons, List.length_append, Nat.add_assoc]

/-- `place` has every character of a text in a piece. -/
theorem exists_mem_place {pos i : Nat} {parts : List (List Char)} {c : Char}
    (h : parts.flatten[i]? = some c) :
    ∃ p ∈ place pos parts, p.pos ≤ pos + i ∧ pos + i < p.stop ∧ c ∈ p.chars := by
  induction parts generalizing pos i with
  | nil => cases h
  | cons part parts ih =>
    rw [List.flatten_cons] at h
    -- The character is in the first part or behind it.
    by_cases hi : i < part.length
    · rw [List.getElem?_append_left hi] at h
      refine ⟨⟨pos, part⟩, List.mem_cons_self, Nat.le_add_right pos i, ?_, ?_⟩
      · exact Nat.add_lt_add_left hi pos
      · exact List.mem_of_getElem? h
    · rw [List.getElem?_append_right (by omega)] at h
      obtain ⟨p, (hp : p ∈ place (pos + part.length) parts), hle, hlt, hc⟩ := ih h
      exact ⟨p, List.mem_cons_of_mem _ hp, by omega, by omega, hc⟩

/-- `place` puts each piece where the one before it stops. -/
theorem isChain_place (pos : Nat) (parts : List (List Char)) :
    (place pos parts).IsChain fun p q => p.stop = q.pos := by
  induction parts generalizing pos with
  | nil => exact List.isChain_nil
  | cons part parts ih =>
    cases parts with
    | nil => exact List.isChain_singleton _
    | cons next parts => exact List.isChain_cons_cons.mpr ⟨rfl, ih _⟩

/-- One piece stands in front of another, and not side by side if both are runs. -/
def Apart (p q : Piece) : Prop := p.stop ≤ q.pos ∧ (p.isRun → q.isRun → p.stop < q.pos)

/-- Pieces that follow one another are `Apart`, if no two runs are neighbours. -/
theorem pairwise_apart {ps : List Piece} (hne : ∀ p ∈ ps, p.chars ≠ [])
    (hplaced : ps.IsChain fun p q => p.stop = q.pos)
    (hmaximal : ps.IsChain fun p q => ¬ (p.isRun ∧ q.isRun)) : ps.Pairwise Apart := by
  induction ps with
  | nil => exact List.Pairwise.nil
  | cons p ps ih =>
    cases ps with
    | nil => exact List.pairwise_singleton Apart p
    | cons q ps =>
      obtain ⟨hpq, hplaced⟩ := List.isChain_cons_cons.mp hplaced
      obtain ⟨hruns, hmaximal⟩ := List.isChain_cons_cons.mp hmaximal
      have hrest := ih (fun r hr => hne r (List.mem_cons_of_mem p hr)) hplaced hmaximal
      refine List.pairwise_cons.mpr ⟨?_, hrest⟩
      intro r hr
      -- The next piece touches the first, and those behind it do not.
      rcases List.mem_cons.mp hr with rfl | hr
      · exact ⟨hpq.le, fun hp hr => absurd ⟨hp, hr⟩ hruns⟩
      · -- All of the next piece stands in between.
        have hq : q.pos < q.stop :=
          Nat.lt_add_of_pos_right (List.length_pos_iff.mpr (hne q (by simp)))
        have hqr : q.stop ≤ r.pos := ((List.pairwise_cons.mp hrest).1 r hr).1
        have hpr : p.stop < r.pos := by omega
        exact ⟨hpr.le, fun _ _ => hpr⟩

end Piece

/-! ## The pieces of a line -/

section Pieces

variable {source : String} {p : Piece}

/-- `pieces` has the parts of `cut`. -/
theorem map_chars_pieces (source : String) :
    (pieces source).map Piece.chars = cut source.toList :=
  Piece.map_chars_place 0 _

/-- `isRun` is true of pieces of digits and points. -/
theorem isRun_iff (p : Piece) : p.isRun ↔ ∀ c ∈ p.chars, isNumeral c := List.all_eq_true

/-- A piece of `pieces` is a run or a single other character. -/
theorem formed_of_mem_pieces (h : p ∈ pieces source) :
    (p.chars ≠ [] ∧ p.isRun) ∨ ∃ c, p.chars = [c] ∧ isNumeral c = false := by
  rw [isRun_iff]
  refine (isCut_cut source.toList).formed p.chars ?_
  rw [← map_chars_pieces]
  exact List.mem_map_of_mem h

/-- No piece of `pieces` is empty. -/
theorem chars_ne_nil_of_mem_pieces (h : p ∈ pieces source) : p.chars ≠ [] := by
  rcases formed_of_mem_pieces h with ⟨hne, _⟩ | ⟨c, hc, _⟩
  · exact hne
  · rw [hc]
    exact List.cons_ne_nil c []

/-- What is left of a line where a piece starts: the piece and the parts behind it. -/
theorem exists_drop_eq_of_mem_pieces (h : p ∈ pieces source) :
    ∃ before after, cut source.toList = before ++ p.chars :: after ∧
      source.toList.drop p.pos = p.chars ++ after.flatten := by
  obtain ⟨before, after, hcut, hpos⟩ := Piece.exists_append_of_mem_place h
  refine ⟨before, after, hcut, ?_⟩
  have hflatten := (isCut_cut source.toList).flatten
  rw [hcut, List.flatten_append, List.flatten_cons] at hflatten
  rw [← hflatten, hpos, Nat.zero_add, List.drop_left]

/-- The characters of a piece are those of the line in its place. -/
theorem chars_eq_of_mem_pieces (h : p ∈ pieces source) :
    p.chars = (source.toList.drop p.pos).take p.chars.length := by
  obtain ⟨_, _, _, hdrop⟩ := exists_drop_eq_of_mem_pieces h
  rw [hdrop, List.take_left]

/-- The pieces of a line are `Apart`. -/
theorem pairwise_apart_pieces (source : String) : (pieces source).Pairwise Piece.Apart := by
  refine Piece.pairwise_apart (fun p hp => chars_ne_nil_of_mem_pieces hp)
    (Piece.isChain_place 0 _) ?_
  have hmaximal := (isCut_cut source.toList).maximal
  rw [← map_chars_pieces, List.isChain_map] at hmaximal
  simpa only [isRun_iff] using hmaximal

/-- `pieces` has every character of a line in a piece. -/
theorem exists_piece_at {i : Nat} {c : Char} (h : source.toList[i]? = some c) :
    ∃ p ∈ pieces source, p.pos ≤ i ∧ i < p.stop ∧ c ∈ p.chars := by
  rw [← (isCut_cut source.toList).flatten] at h
  obtain ⟨p, (hp : p ∈ pieces source), hle, hlt, hc⟩ := Piece.exists_mem_place h
  rw [Nat.zero_add] at hle hlt
  exact ⟨p, hp, hle, hlt, hc⟩

/-! ## The tokens of a line -/

/-- `token?` gives a token the place and the characters of the piece that it stands for, and it is a
number if that is a run. -/
theorem token_of_piece (h : p ∈ pieces source) {t : Token} (ht : p.token? = some t) :
    t.pos = p.pos ∧ t.text.toList = p.chars ∧ (t.kind = .number ↔ p.isRun) := by
  rcases formed_of_mem_pieces h with ⟨_, hrun⟩ | ⟨c, hc, hother⟩
  · rw [Piece.token?, if_pos hrun] at ht
    cases ht
    exact ⟨rfl, String.toList_ofList, fun _ => hrun, fun _ => rfl⟩
  · obtain ⟨pos, chars⟩ := p
    obtain rfl : chars = [c] := hc
    rw [Piece.token?_single hother] at ht
    obtain ⟨kind, hkind, rfl⟩ := Option.map_eq_some_iff.mp ht
    rw [Piece.isRun_single hother]
    exact ⟨rfl, String.toList_ofList, fun h => absurd h (ne_number_of_ofOperator? hkind),
      fun h => by cases h⟩

/-- A token stops where the piece does that `token?` makes it of. -/
theorem stop_of_piece (h : p ∈ pieces source) {t : Token} (ht : p.token? = some t) :
    t.stop = p.stop := by
  obtain ⟨hpos, htext, _⟩ := token_of_piece h ht
  rw [Token.stop, Piece.stop, hpos, ← String.length_toList, htext, Int.natCast_add]

end Pieces

/-- How the tokens that `scan` reads lie in their line. -/
structure Laid (source : String) (tokens : List Token) : Prop where
  /-- The text of a token is what stands in its place. -/
  text_eq : ∀ t ∈ tokens, ∃ start : Nat, t.pos = start ∧ t.text ≠ "" ∧
    t.text.toList = (source.toList.drop start).take t.text.length
  /-- Tokens follow one another and do not overlap, and numbers do not even touch. -/
  apart : tokens.Pairwise fun a b =>
    a.pos < b.pos ∧ a.stop ≤ b.pos ∧ (a.kind = .number → b.kind = .number → a.stop < b.pos)
  /-- What is in no token is blank. -/
  blank : ∀ (i : Nat) c, source.toList[i]? = some c → (∀ t ∈ tokens, ¬ (t.pos ≤ i ∧ i < t.stop)) →
    c ∈ blanks

/-- `readPieces` gives the tokens of pieces that are all legible. -/
theorem readPieces_eq_ok_iff (ps : List Piece) (tokens : List Token) :
    readPieces ps = .ok tokens ↔ (∀ p ∈ ps, p.Legible) ∧ tokens = ps.filterMap Piece.token? := by
  have hnone : ps.findSome? Piece.fault? = none ↔ ∀ p ∈ ps, p.Legible := by
    simp only [List.findSome?_eq_none_iff, Piece.fault?_eq_none_iff]
  rw [readPieces, ← hnone]
  cases ps.findSome? Piece.fault? <;> simp [eq_comm]

/-- `readPieces` gives what is wrong with the first piece that is not legible. -/
theorem readPieces_eq_error_iff (ps : List Piece) (err : LexError) :
    readPieces ps = .error err ↔ ∃ before p after, ps = before ++ p :: after ∧
      (∀ q ∈ before, q.Legible) ∧ p.fault? = some err := by
  have hsome : readPieces ps = .error err ↔ ps.findSome? Piece.fault? = some err := by
    rw [readPieces]
    cases ps.findSome? Piece.fault? <;> simp
  rw [hsome, List.findSome?_eq_some_iff]
  simp only [Piece.fault?_eq_none_iff]
  constructor
  · rintro ⟨before, p, after, hps, hp, hbefore⟩
    exact ⟨before, p, after, hps, hbefore, hp⟩
  · rintro ⟨before, p, after, hps, hbefore, hp⟩
    exact ⟨before, p, after, hps, hp, hbefore⟩

section Scan

variable {source : String} {tokens : List Token}

/-- `scan` gives the tokens of a line whose pieces are all legible. -/
theorem scan_eq_ok_iff : scan source = .ok tokens ↔
    (∀ p ∈ pieces source, p.Legible) ∧ tokens = (pieces source).filterMap Piece.token? := by
  rw [scan_eq_readPieces, readPieces_eq_ok_iff]

/-- A legible piece that `token?` makes nothing of is blank. -/
theorem mem_blanks_of_token?_eq_none {p : Piece} (hp : p ∈ pieces source) (hlegible : p.Legible)
    (ht : p.token? = none) : ∀ c ∈ p.chars, c ∈ blanks := by
  obtain ⟨pos, chars⟩ := p
  rcases formed_of_mem_pieces hp with ⟨_, hrun⟩ | ⟨c, hc, hother⟩
  · rw [Piece.token?, if_pos hrun] at ht
    cases ht
  · obtain rfl : chars = [c] := hc
    rw [Piece.token?_single hother, Option.map_eq_none_iff] at ht
    -- A sign would be a token.
    have hsign : c ∉ signs := by
      rw [← isSome_ofOperator?_iff, ht]
      exact Bool.false_ne_true
    refine List.forall_mem_singleton.mpr ?_
    exact ((Piece.legible_single hother pos).mp hlegible).resolve_right hsign

/-- A line that `scan` reads has no other characters than those that tokens and blanks are made of.
-/
theorem mem_alphabet_of_scan (h : scan source = .ok tokens) {c : Char} (hc : c ∈ source.toList) :
    isNumeral c ∨ c ∈ blanks ∨ c ∈ signs := by
  obtain ⟨i, hi⟩ := List.getElem?_of_mem hc
  obtain ⟨p, hp, _, _, hmem⟩ := exists_piece_at hi
  have hlegible := (scan_eq_ok_iff.mp h).1 p hp
  rcases formed_of_mem_pieces hp with ⟨_, hrun⟩ | ⟨d, hd, hother⟩
  · exact Or.inl ((isRun_iff p).mp hrun c hmem)
  · obtain ⟨pos, chars⟩ := p
    obtain rfl : chars = [d] := hd
    obtain rfl := List.mem_singleton.mp hmem
    exact Or.inr ((Piece.legible_single hother pos).mp hlegible)

/-- The tokens that `scan` reads lie in their line as they should. -/
theorem laid_of_scan (h : scan source = .ok tokens) : Laid source tokens := by
  obtain ⟨hlegible, rfl⟩ := scan_eq_ok_iff.mp h
  constructor
  case text_eq =>
    intro t ht
    obtain ⟨p, hp, hpt⟩ := List.mem_filterMap.mp ht
    obtain ⟨hpos, htext, _⟩ := token_of_piece hp hpt
    refine ⟨p.pos, hpos, ?_, ?_⟩
    · intro hempty
      rw [hempty] at htext
      exact chars_ne_nil_of_mem_pieces hp htext.symm
    · rw [← String.length_toList, htext]
      exact chars_eq_of_mem_pieces hp
  case apart =>
    -- Tokens are as far apart as the pieces that they stand for.
    refine List.Pairwise.filterMap Piece.token? ?_
      ((pairwise_apart_pieces source).imp_of_mem fun hp hq h => And.intro hp (And.intro hq h))
    intro p q ⟨hp, hq, hle, hruns⟩ a ha b hb
    obtain ⟨hapos, _, hakind⟩ := token_of_piece hp ha
    obtain ⟨hbpos, _, hbkind⟩ := token_of_piece hq hb
    have hastop := stop_of_piece hp ha
    have hlt : p.pos < p.stop :=
      Nat.lt_add_of_pos_right (List.length_pos_iff.mpr (chars_ne_nil_of_mem_pieces hp))
    -- Two numbers are two runs, which do not touch.
    refine ⟨by omega, by omega, fun ha hb => ?_⟩
    have := hruns (hakind.mp ha) (hbkind.mp hb)
    omega
  case blank =>
    intro i c hc houtside
    obtain ⟨p, hp, hle, hlt, hmem⟩ := exists_piece_at hc
    refine mem_blanks_of_token?_eq_none hp (hlegible p hp) ?_ c hmem
    -- The token of the piece would be around the character.
    cases ht : p.token? with
    | none => rfl
    | some t =>
      obtain ⟨hpos, _, _⟩ := token_of_piece hp ht
      have hstop := stop_of_piece hp ht
      exact absurd ⟨by omega, by omega⟩ (houtside t (List.mem_filterMap.mpr ⟨p, hp, ht⟩))

end Scan

/-! ## Exactness -/

/-- `scan` reads a line in its maximal runs of digits and points and its single other characters,
the `pieces`, which it can be cut into in one way only.  It gives tokens if and only if every one of
these pieces is `Legible`; the tokens are then those of the runs and signs, in order, each with the
text in its place, and all else is blank.  If it gives none, the first illegible piece says what is
wrong, whatever comes behind. -/
theorem scan_exact (source : String) :
    (∀ parts, IsCut source.toList parts ↔ parts = (pieces source).map Piece.chars) ∧
    (∀ p ∈ pieces source, p.chars = (source.toList.drop p.pos).take p.chars.length) ∧
    ((∃ tokens, scan source = .ok tokens) ↔ ∀ p ∈ pieces source, p.Legible) ∧
    (∀ tokens, scan source = .ok tokens →
      tokens = (pieces source).filterMap Piece.token? ∧ Laid source tokens) ∧
    ∀ err, scan source = .error err ↔
      ∃ before p after, pieces source = before ++ p :: after ∧ (∀ q ∈ before, q.Legible) ∧
        p.fault? = some err := by
  refine ⟨fun parts => ?_, fun p hp => chars_eq_of_mem_pieces hp, ?_, fun tokens h => ?_,
    fun err => ?_⟩
  · rw [map_chars_pieces]
    exact isCut_iff _ parts
  · constructor
    · -- Legible pieces are the only ones that have tokens.
      intro ⟨tokens, h⟩
      exact (scan_eq_ok_iff.mp h).1
    · intro hlegible
      exact ⟨_, scan_eq_ok_iff.mpr ⟨hlegible, rfl⟩⟩
  · exact ⟨(scan_eq_ok_iff.mp h).2, laid_of_scan h⟩
  · rw [scan_eq_readPieces]
    exact readPieces_eq_error_iff _ err

/-- `scan_exact` for a line with tokens, and for one whose second run has two points, in front of a
foreign character. -/
theorem scan_exact_second_run :
    scan "2 *3.5" = .ok [ofNumeral ['2'] 0, ofOperator .star '*' 2, ofNumeral ['3', '.', '5'] 3] ∧
      scan "2 3..5$" = .error (.invalidNumber "3..5" 2) := by
  obtain ⟨_, _, hreads, htokens, _⟩ := scan_exact "2 *3.5"
  obtain ⟨_, _, _, _, herror⟩ := scan_exact "2 3..5$"
  constructor
  · obtain ⟨tokens, h⟩ := hreads.mpr (by decide)
    rw [h, (htokens tokens h).1]
    rfl
  · exact (herror _).mpr
      ⟨[⟨0, ['2']⟩, ⟨1, [' ']⟩], ⟨2, ['3', '.', '.', '5']⟩, [⟨6, ['$']⟩], rfl, by decide, rfl⟩

end Reckoner.Token
