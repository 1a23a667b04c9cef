import Mathlib.Data.List.SplitBy
import Reckoner.Token.Scan

/-!
# Lines in pieces

A line falls into pieces before anything is known of its tokens: each run of digits and points is a
piece as far as it goes, and each other character is a piece by itself.  A piece can be judged
alone.  `Token.scan` does no more than this, piece by piece from the left, and stops at the first
that is wrong.

## Key results

- `isCut_iff`: there is one way to cut a text into such pieces
- `fault?_eq_none_iff`: nothing is wrong with a piece that is legible
- `scan_eq_readPieces`: scanning a line is reading its pieces
-/

namespace Reckoner.Token

/-! ## Cutting a text -/

/-- A text in maximal runs of digits and points and single other characters. -/
structure IsCut (cs : List Char) (parts : List (List Char)) : Prop where
  /-- Nothing is lost, and the order is kept. -/
  flatten : parts.flatten = cs
  formed : ∀ part ∈ parts,
    (part ≠ [] ∧ ∀ c ∈ part, isNumeral c) ∨ ∃ c, part = [c] ∧ isNumeral c = false
  /-- Runs go on as far as they can. -/
  maximal : parts.IsChain fun a b => ¬ ((∀ c ∈ a, isNumeral c) ∧ ∀ c ∈ b, isNumeral c)

/-- The text, cut wherever it does not go on with a digit or a point behind a digit or a point. -/
def cut (cs : List Char) : List (List Char) :=
  cs.splitBy fun a b => isNumeral a && isNumeral b

/-- `cut` parts no run. -/
theorem isChain_of_forall_isNumeral {part : List Char} (h : ∀ c ∈ part, isNumeral c) :
    part.IsChain fun a b => isNumeral a && isNumeral b := by
  refine List.Pairwise.isChain (List.pairwise_of_forall_mem_list ?_)
  intro a ha b hb
  rw [h a ha, h b hb]
  rfl

/-- A part of `cut` that starts with a digit or a point has nothing else in it. -/
theorem forall_isNumeral_of_isChain {part : List Char}
    (h : part.IsChain fun a b => isNumeral a && isNumeral b) {c : Char} (hc : c ∈ part.head?)
    (hnumeral : isNumeral c) : ∀ d ∈ part, isNumeral d := by
  induction part generalizing c with
  | nil => exact List.forall_mem_nil _
  | cons a rest ih =>
    obtain rfl : a = c := Option.some.inj hc
    refine List.forall_mem_cons.mpr ⟨hnumeral, ?_⟩
    cases rest with
    | nil => exact List.forall_mem_nil _
    | cons b rest =>
      obtain ⟨hab, hrest⟩ := List.isChain_cons_cons.mp h
      exact ih hrest rfl (Bool.and_eq_true_iff.mp hab).2

/-- `cut` cuts a text into maximal runs and single other characters. -/
theorem isCut_cut (cs : List Char) : IsCut cs (cut cs) where
  flatten := List.flatten_splitBy _ cs
  formed := by
    intro part hpart
    have hchain := List.isChain_of_mem_splitBy hpart
    obtain ⟨c, rest, rfl⟩ := List.exists_cons_of_ne_nil (List.ne_nil_of_mem_splitBy hpart)
    cases hc : isNumeral c with
    | true => exact Or.inl ⟨List.cons_ne_nil c rest, forall_isNumeral_of_isChain hchain rfl hc⟩
    | false =>
      -- Nothing goes on behind a character that is neither a digit nor a point.
      cases rest with
      | nil => exact Or.inr ⟨c, rfl, hc⟩
      | cons d rest =>
        have hcd := (List.isChain_cons_cons.mp hchain).1
        rw [hc] at hcd
        cases hcd
  maximal := by
    refine (List.isChain_getLast_head_splitBy _ cs).imp ?_
    intro a b ⟨ha, hb, hab⟩ ⟨hnumerala, hnumeralb⟩
    rw [hnumerala _ (List.getLast_mem ha), hnumeralb _ (List.head_mem hb)] at hab
    cases hab

/-- There is one way to cut a text, that of `cut`. -/
theorem isCut_iff (cs : List Char) (parts : List (List Char)) :
    IsCut cs parts ↔ parts = cut cs := by
  refine ⟨fun h => ?_, fun h => h ▸ isCut_cut cs⟩
  have hne : ∀ part ∈ parts, part ≠ [] := by
    intro part hpart
    rcases h.formed part hpart with ⟨hne, _⟩ | ⟨c, rfl, _⟩
    · exact hne
    · exact List.cons_ne_nil c []
  refine (List.splitBy_eq_iff.mpr ⟨h.flatten.symm, fun hnil => hne [] hnil rfl, ?_, ?_⟩).symm
  · -- Inside a part nothing is parted, be it a run or a single character.
    intro part hpart
    rcases h.formed part hpart with ⟨_, hnumeral⟩ | ⟨c, rfl, _⟩
    · exact isChain_of_forall_isNumeral hnumeral
    · exact List.isChain_singleton c
  · -- Where two parts meet, one of them is a single other character.
    refine List.isChain_iff_getElem.mpr ?_
    intro i hi
    have hpair := List.isChain_iff_getElem.mp h.maximal i hi
    have ha := List.getElem_mem (l := parts) (show i < parts.length by omega)
    have hb := List.getElem_mem (l := parts) hi
    refine ⟨hne _ ha, hne _ hb, ?_⟩
    rcases h.formed _ ha with ⟨_, hnumerala⟩ | ⟨c, hc, hother⟩
    · rcases h.formed _ hb with ⟨_, hnumeralb⟩ | ⟨c, hc, hother⟩
      · exact absurd ⟨hnumerala, hnumeralb⟩ hpair
      · simp [hc, hother]
    · simp [hc, hother]

/-- `cut` takes a character by itself that is neither a digit nor a point. -/
theorem cut_cons_of_other {c : Char} (hc : isNumeral c = false) (cs : List Char) :
    cut (c :: cs) = [c] :: cut cs := by
  have hcut : cut ([c] ++ cs) = cut [c] ++ cut cs := by
    refine List.splitBy_append ?_
    intro a ha b _
    obtain rfl : c = a := Option.some.inj ha
    rw [hc, Bool.false_and]
  exact hcut

/-- `cut` takes a run as far as it goes. -/
theorem cut_cons_of_isNumeral {c : Char} (hc : isNumeral c) (cs : List Char) :
    cut (c :: cs) = (c :: cs.takeWhile isNumeral) :: cut (cs.dropWhile isNumeral) := by
  have hrun : ∀ d ∈ c :: cs.takeWhile isNumeral, isNumeral d :=
    List.forall_mem_cons.mpr ⟨hc, List.all_eq_true.mp List.all_takeWhile⟩
  have hcut : cut ((c :: cs.takeWhile isNumeral) ++ cs.dropWhile isNumeral) =
      cut (c :: cs.takeWhile isNumeral) ++ cut (cs.dropWhile isNumeral) := by
    -- Where the run ends, something else follows.
    refine List.splitBy_append ?_
    intro a _ b hb
    have hother : isNumeral b = false := by
      have hhead := List.head?_dropWhile_not isNumeral cs
      rw [hb] at hhead
      exact hhead
    rw [hother, Bool.and_false]
  rw [List.cons_append, List.takeWhile_append_dropWhile] at hcut
  rw [hcut, cut, List.splitBy_of_isChain (List.cons_ne_nil _ _) (isChain_of_forall_isNumeral hrun)]
  rfl

/-! ## Pieces and their places -/

/-- A piece of a line. -/
structure Piece where
  /-- The position of its first character. -/
  pos : Nat
  chars : List Char
deriving DecidableEq, Repr

namespace Piece

/-- The position just past the piece. -/
def stop (p : Piece) : Nat := p.pos + p.chars.length

/-- Whether the piece is a run of digits and points. -/
def isRun (p : Piece) : Bool := p.chars.all isNumeral

/-- The parts of a text that starts at position `pos`, with their places. -/
def place (pos : Nat) : List (List Char) → List Piece
  | [] => []
  | chars :: rest => ⟨pos, chars⟩ :: place (pos + chars.length) rest

end Piece

/-- The pieces of the rest of a line that starts at position `pos`. -/
def piecesFrom (pos : Nat) (cs : List Char) : List Piece := Piece.place pos (cut cs)

/-- The pieces of a line. -/
def pieces (source : String) : List Piece := piecesFrom 0 source.toList

/-- `piecesFrom` has a piece of one character for one that is neither a digit nor a point. -/
theorem piecesFrom_cons_of_other {c : Char} (hc : isNumeral c = false) (pos : Nat)
    (cs : List Char) : piecesFrom pos (c :: cs) = ⟨pos, [c]⟩ :: piecesFrom (pos + 1) cs := by
  rw [piecesFrom, cut_cons_of_other hc]
  rfl

/-- `piecesFrom` has one piece for a run. -/
theorem piecesFrom_cons_of_isNumeral {c : Char} (hc : isNumeral c) (pos : Nat) (cs : List Char) :
    piecesFrom pos (c :: cs) = ⟨pos, c :: cs.takeWhile isNumeral⟩ ::
      piecesFrom (pos + (c :: cs.takeWhile isNumeral).length) (cs.dropWhile isNumeral) := by
  rw [piecesFrom, cut_cons_of_isNumeral hc]
  rfl

/-! ## Judging a piece -/

/-- The characters that may stand between tokens. -/
def blanks : List Char := [' ', '\t', '\n', '\r']

/-- The characters that are tokens by themselves. -/
def signs : List Char := ['+', '-', '*', '/']

/-- `isSpace` is true of the `blanks`. -/
theorem isSpace_iff (c : Char) : isSpace c ↔ c ∈ blanks := by
  simp only [isSpace, blanks, Bool.or_eq_true, beq_iff_eq, List.mem_cons, List.not_mem_nil,
    or_false]
  tauto

/-- `ofOperator?` knows the `signs`. -/
theorem isSome_ofOperator?_iff (c : Char) : (Kind.ofOperator? c).isSome ↔ c ∈ signs := by
  unfold Kind.ofOperator? signs
  split <;> simp_all

/-- `ofOperator?` takes no character for the sign of a number. -/
theorem ne_number_of_ofOperator? {kind : Kind} {c : Char} (h : Kind.ofOperator? c = some kind) :
    kind ≠ .number := by
  rintro rfl
  unfold Kind.ofOperator? at h
  split at h <;> cases h

namespace Piece

/-- A run has to start with a digit and may hold one point; any other character has to be a blank or
a sign. -/
def Legible (p : Piece) : Prop :=
  if p.isRun then (∀ c ∈ p.chars.head?, c.isDigit) ∧ p.chars.count '.' ≤ 1
  else ∀ c ∈ p.chars.head?, c ∈ blanks ∨ c ∈ signs

/-- What is wrong with a piece, if something is. -/
def fault? (p : Piece) : Option LexError :=
  match p.chars with
  | [] => none
  | c :: _ =>
    if p.isRun then
      if c = '.' then some (.unexpectedCharacter "." p.pos)
      else if 1 < p.chars.count '.' then some (.invalidNumber (String.ofList p.chars) p.pos)
      else none
    else if c ∈ blanks ∨ c ∈ signs then none
    else some (.unexpectedCharacter (String.ofList [c]) p.pos)

/-- The token that a piece stands for: a run is a number, and a sign is itself. -/
def token? (p : Piece) : Option Token :=
  if p.isRun then some (ofNumeral p.chars p.pos)
  else p.chars.head?.bind fun c => (Kind.ofOperator? c).map fun kind => ofOperator kind c p.pos

/-- What `isNumeral` accepts is a digit unless it is a point. -/
theorem isDigit_iff_of_isNumeral {c : Char} (h : isNumeral c) : c.isDigit ↔ c ≠ '.' := by
  rcases (Bool.or_eq_true _ _).mp h with hdigit | hpoint
  · refine ⟨fun _ hc => ?_, fun _ => hdigit⟩
    rw [hc] at hdigit
    exact absurd hdigit (by decide)
  · obtain rfl := beq_iff_eq.mp hpoint
    exact ⟨fun h => absurd h (by decide), fun h => absurd rfl h⟩

/-- `fault?` finds nothing wrong with a piece that is `Legible`, and with no other. -/
theorem fault?_eq_none_iff (p : Piece) : p.fault? = none ↔ p.Legible := by
  obtain ⟨pos, chars⟩ := p
  cases chars with
  | nil => simp [fault?, Legible]
  | cons c rest =>
    cases hrun : isRun ⟨pos, c :: rest⟩ with
    | true =>
      have hc : isNumeral c := (List.all_eq_true.mp hrun) c List.mem_cons_self
      simp only [fault?, Legible, hrun, ↓reduceIte, List.head?_cons, Option.mem_some_iff,
        forall_eq', isDigit_iff_of_isNumeral hc]
      -- A run that does not start with a point starts with a digit.
      by_cases hpoint : c = '.'
      · simp [hpoint]
      · simp [hpoint]
    | false =>
      simp only [fault?, Legible, hrun, Bool.false_eq_true, ↓reduceIte, List.head?_cons,
        Option.mem_some_iff, forall_eq']
      by_cases hc : c ∈ blanks ∨ c ∈ signs
      · simp [hc]
      · simp [hc]

instance (p : Piece) : Decidable p.Legible := decidable_of_iff _ p.fault?_eq_none_iff

/-! ### Pieces of one character -/

section Single

variable {c : Char} (hc : isNumeral c = false) (pos : Nat)
include hc

/-- A single other character is no run. -/
theorem isRun_single : isRun ⟨pos, [c]⟩ = false := by
  simp [isRun, hc]

/-- A single other character is `Legible` if it is a blank or a sign. -/
theorem legible_single : Legible ⟨pos, [c]⟩ ↔ c ∈ blanks ∨ c ∈ signs := by
  simp [Legible, isRun_single hc]

/-- `fault?` reports a single character that is neither a blank nor a sign. -/
theorem fault?_single (h : ¬ (c ∈ blanks ∨ c ∈ signs)) :
    fault? ⟨pos, [c]⟩ = some (.unexpectedCharacter (String.ofList [c]) pos) := by
  simp only [fault?, isRun_single hc, Bool.false_eq_true, ↓reduceIte, if_neg h]

/-- `token?` makes an operator of a sign, and nothing of a blank. -/
theorem token?_single :
    token? ⟨pos, [c]⟩ = (Kind.ofOperator? c).map fun kind => ofOperator kind c pos := by
  simp [token?, isRun_single hc]

end Single

/-! ### Runs -/

section Run

variable {c : Char} (hc : isNumeral c) (pos : Nat) (cs : List Char)
include hc

/-- Digits and points are a run, as far as they go. -/
theorem isRun_takeWhile : isRun ⟨pos, c :: cs.takeWhile isNumeral⟩ := by
  simp [isRun, hc]

/-- `token?` makes a number of a run. -/
theorem token?_takeWhile :
    token? ⟨pos, c :: cs.takeWhile isNumeral⟩ =
      some (ofNumeral (c :: cs.takeWhile isNumeral) pos) := by
  simp [token?, isRun_takeWhile hc]

end Run

end Piece

/-! ## Reading pieces -/

/-- The tokens of pieces, or what is wrong with the first that is not legible. -/
def readPieces (ps : List Piece) : Except LexError (List Token) :=
  match ps.findSome? Piece.fault? with
  | some err => .error err
  | none => .ok (ps.filterMap Piece.token?)

/-- `readPieces` stops at a fault. -/
theorem readPieces_cons_of_fault {p : Piece} {err : LexError} (h : p.fault? = some err)
    (ps : List Piece) : readPieces (p :: ps) = .error err := by
  rw [readPieces, List.findSome?_cons, h]

/-- `readPieces` goes on behind a legible piece, with its token if it has one. -/
theorem readPieces_cons_of_legible {p : Piece} (h : p.Legible) (ps : List Piece) :
    readPieces (p :: ps) = (readPieces ps).map fun tokens => p.token?.toList ++ tokens := by
  rw [readPieces, readPieces, List.findSome?_cons, (p.fault?_eq_none_iff).mpr h]
  cases hps : ps.findSome? Piece.fault? with
  | some err => rfl
  | none => cases hp : p.token? <;> simp [hp, Except.map]

/-- A token in front of what the rest of a line is read as. -/
theorem bind_cons_eq_map (t : Token) (rest : Except LexError (List Token)) :
    (do let tokens ← rest; return t :: tokens) = rest.map fun tokens => [t] ++ tokens := by
  cases rest <;> rfl

/-- No blank is a digit or a point. -/
theorem isNumeral_of_mem_blanks : ∀ c ∈ blanks, isNumeral c = false := by
  simp [blanks, isNumeral]

/-- No sign is a digit or a point. -/
theorem isNumeral_of_mem_signs : ∀ c ∈ signs, isNumeral c = false := by
  simp [signs, isNumeral]

/-- No blank is an operator. -/
theorem ofOperator?_of_mem_blanks : ∀ c ∈ blanks, Kind.ofOperator? c = none := by
  simp [blanks, Kind.ofOperator?]

/-- `scanFrom` reads the pieces of what is left of a line. -/
theorem scanFrom_eq_readPieces (pos : Nat) (cs : List Char) :
    scanFrom pos cs = readPieces (piecesFrom pos cs) := by
  -- Along the run, which takes a piece in each of its branches.
  fun_induction scanFrom pos cs with
  | case1 pos => rfl
  | case2 pos c cs hspace ih =>
    -- A blank is a legible piece without a token.
    have hblank : c ∈ blanks := (isSpace_iff c).mp hspace
    have hc : isNumeral c = false := isNumeral_of_mem_blanks c hblank
    have hlegible : Piece.Legible ⟨pos, [c]⟩ := (Piece.legible_single hc pos).mpr (Or.inl hblank)
    rw [piecesFrom_cons_of_other hc, readPieces_cons_of_legible hlegible,
      Piece.token?_single hc, ofOperator?_of_mem_blanks c hblank, ih]
    cases readPieces (piecesFrom (pos + 1) cs) <;> rfl
  | case3 pos c cs hspace hdigit numeral hpoints =>
    -- The run starts as it should, so that its points are what is wrong with it.
    have hc : isNumeral c := by simp [isNumeral, hdigit]
    have hpoint : c ≠ '.' := (Piece.isDigit_iff_of_isNumeral hc).mp hdigit
    rw [piecesFrom_cons_of_isNumeral hc, readPieces_cons_of_fault]
    simp only [Piece.fault?, Piece.isRun_takeWhile hc, ↓reduceIte, if_neg hpoint]
    exact if_pos hpoints
  | case4 pos c cs hspace hdigit numeral hpoints ih =>
    have hc : isNumeral c := by simp [isNumeral, hdigit]
    -- It starts with a digit and has no more than one point.
    have hlegible : Piece.Legible ⟨pos, numeral⟩ := by
      rw [Piece.Legible, if_pos (Piece.isRun_takeWhile hc pos cs)]
      refine ⟨?_, Nat.not_lt.mp hpoints⟩
      intro d hd
      obtain rfl : c = d := Option.some.inj hd
      exact hdigit
    rw [piecesFrom_cons_of_isNumeral hc, readPieces_cons_of_legible hlegible,
      Piece.token?_takeWhile hc, bind_cons_eq_map, ih]
    rfl
  | case5 pos c cs hspace hdigit kind hkind ih =>
    have hsign : c ∈ signs := (isSome_ofOperator?_iff c).mp (by rw [hkind]; rfl)
    have hc : isNumeral c = false := isNumeral_of_mem_signs c hsign
    have hlegible : Piece.Legible ⟨pos, [c]⟩ := (Piece.legible_single hc pos).mpr (Or.inr hsign)
    rw [piecesFrom_cons_of_other hc, readPieces_cons_of_legible hlegible,
      Piece.token?_single hc, hkind, bind_cons_eq_map, ih]
    rfl
  | case6 pos c cs hspace hdigit hkind =>
    cases hc : isNumeral c with
    | true =>
      -- A run that starts with a point.
      have hpoint : c = '.' := by
        by_contra hne
        exact hdigit ((Piece.isDigit_iff_of_isNumeral hc).mpr hne)
      rw [piecesFrom_cons_of_isNumeral hc, readPieces_cons_of_fault]
      simp only [Piece.fault?, Piece.isRun_takeWhile hc, ↓reduceIte, if_pos hpoint]
      rw [hpoint]
    | false =>
      have hother : ¬ (c ∈ blanks ∨ c ∈ signs) := by
        rw [← isSpace_iff, ← isSome_ofOperator?_iff, hkind]
        simp [hspace]
      rw [piecesFrom_cons_of_other hc,
        readPieces_cons_of_fault (Piece.fault?_single hc pos hother)]

/-- `scan` reads the pieces of a line. -/
theorem scan_eq_readPieces (source : String) : scan source = readPieces (pieces source) :=
  scanFrom_eq_readPieces 0 source.toList

end Reckoner.Token
