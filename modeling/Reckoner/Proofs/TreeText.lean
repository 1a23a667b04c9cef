import Reckoner.Proofs.LineResults
import Reckoner.Proofs.Prints
import Reckoner.Proofs.ScanExact
import Reckoner.Proofs.ShortestText

/-!
# The text of a tree

`Expr.render` writes a tree piece by piece.  Here its writer is taken apart into turns, each of
which takes up the first piece, to see that it comes to an end and what it has written by then.
What it writes can be read in one way only: the text of a tree says where the tree ends, whatever
follows, and a minus sign in it is an operation, a negation or part of a number by what stands
around it.

## Key results

- `turn_spec`: what one turn does to the writer
- `after_start`: the writer ends after as many turns as the tree asks for
- `isWord_text`: the texts of numbers cannot be taken for anything else
- `text_append_inj`: a text of a tree ends in one place only
- `render_readable`: texts of trees are put together from those of their parts, and read uniquely
-/

namespace Reckoner

/-! ## The characters of numbers -/

/-- Whether a character can be part of the text of a finite number. -/
def Decimal.isFigure (c : Char) : Bool :=
  c.isDigit || c == '.' || c == 'e' || c == '+' || c == '-'

namespace Decimal

/-- Digits are characters of numbers. -/
theorem isFigure_of_isDigit {c : Char} (h : c.isDigit) : isFigure c := by
  simp [isFigure, h]

/-- What `exponentOf?` reads has only characters of numbers. -/
theorem isFigure_of_exponentOf? {cs : List Char} {e : Int} (h : exponentOf? cs = some e) :
    ∀ c ∈ cs, isFigure c := by
  unfold exponentOf? at h
  -- Nothing, an `e` with a sign and digits, or no exponent.
  split at h
  · exact List.forall_mem_nil _
  · next sign ds =>
    split at h
    · cases h
    · next hds =>
      have hdigits : ∀ c ∈ ds, c.isDigit := by
        rw [Bool.or_eq_true, not_or, Bool.not_eq_true', Bool.not_eq_false] at hds
        exact List.all_eq_true.mp hds.2
      have hsign : isFigure sign := by
        split at h
        · next hplus => rw [hplus]; rfl
        · split at h
          · next hminus => rw [hminus]; rfl
          · cases h
      refine List.forall_mem_cons.mpr ⟨rfl, List.forall_mem_cons.mpr ⟨hsign, fun c hc => ?_⟩⟩
      exact isFigure_of_isDigit (hdigits c hc)
  · cases h

/-- Digits in front do not matter. -/
theorem isFigure_of_dropWhile {cs : List Char} (h : ∀ c ∈ cs.dropWhile Char.isDigit, isFigure c) :
    ∀ c ∈ cs, isFigure c := by
  intro c hc
  rw [← List.takeWhile_append_dropWhile (p := Char.isDigit) (l := cs)] at hc
  rcases List.mem_append.mp hc with hc | hc
  · exact isFigure_of_isDigit (List.mem_takeWhile_imp hc)
  · exact h c hc

/-- What `fractionOf` takes off does not matter. -/
theorem isFigure_of_fractionOf {cs : List Char} (h : ∀ c ∈ (fractionOf cs).2, isFigure c) :
    ∀ c ∈ cs, isFigure c := by
  unfold fractionOf at h
  split at h
  · exact List.forall_mem_cons.mpr ⟨rfl, isFigure_of_dropWhile h⟩
  · exact h

/-- What `read?` reads has only characters of numbers. -/
theorem isFigure_of_read? {cs : List Char} {d : Decimal} (h : read? cs = some d) :
    ∀ c ∈ cs, isFigure c := by
  simp only [read?] at h
  by_cases hwhole : (cs.takeWhile Char.isDigit).isEmpty
  · rw [if_pos hwhole] at h
    cases h
  · rw [if_neg hwhole] at h
    obtain ⟨e, he, _⟩ := Option.map_eq_some_iff.mp h
    exact isFigure_of_dropWhile (isFigure_of_fractionOf (isFigure_of_exponentOf? he))

end Decimal

/-- What `denoted?` finds a number in has only characters of numbers. -/
theorem Number.isFigure_of_denoted? {cs : List Char} {p : Bool × Decimal}
    (h : denoted? cs = some p) : ∀ c ∈ cs, Decimal.isFigure c := by
  unfold denoted? at h
  split at h
  · next ds =>
    obtain ⟨d, hd, _⟩ := Option.map_eq_some_iff.mp h
    exact List.forall_mem_cons.mpr ⟨rfl, Decimal.isFigure_of_read? hd⟩
  · obtain ⟨d, hd, _⟩ := Option.map_eq_some_iff.mp h
    exact Decimal.isFigure_of_read? hd

namespace Expr

/-! ## The writer turn by turn -/

/-- How many turns it takes to write a tree. -/
def turns : Expr → Nat
  | literal _ => 1
  | neg e => e.turns + 3
  | binary _ l r => l.turns + r.turns + 4
  | unknown _ => 1

/-- How many turns it takes to write a piece. -/
def Piece.turns : Piece → Nat
  | text _ => 1
  | tree e => e.turns

/-- Every tree takes a turn. -/
theorem turns_pos (e : Expr) : 0 < e.turns := by
  cases e <;> simp [turns]

/-- Every piece takes a turn. -/
theorem Piece.turns_pos (p : Piece) : 0 < p.turns := by
  cases p with
  | text s => exact Nat.one_pos
  | tree e => exact e.turns_pos

/-- A writer between two turns. -/
structure Writer where
  /-- What has been written. -/
  done : String
  /-- The pieces that are left, the first one first. -/
  pieces : List Piece

namespace Writer

/-- The writer that is to write a tree. -/
def start (e : Expr) : Writer where
  done := ""
  pieces := [.tree e]

/-- Takes up the first piece, if there is one: a text or a leaf is written, and any other tree makes
room for its parts. -/
def turn : Writer → Option Writer
  | ⟨_, []⟩ => none
  | ⟨done, .text s :: rest⟩ => some ⟨done ++ s, rest⟩
  | ⟨done, .tree (.literal v) :: rest⟩ => some ⟨done ++ Number.text v, rest⟩
  | ⟨done, .tree (.unknown name) :: rest⟩ => some ⟨done ++ name, rest⟩
  | ⟨done, .tree (.neg e) :: rest⟩ => some ⟨done, .text "(- " :: .tree e :: .text ")" :: rest⟩
  | ⟨done, .tree (.binary op l r) :: rest⟩ =>
    some ⟨done,
      .text "(" :: .tree l :: .text (" " ++ op.symbol ++ " ") :: .tree r :: .text ")" :: rest⟩

/-- Takes a number of turns, or fewer if the writer comes to an end. -/
def after : Nat → Writer → Writer
  | 0, w => w
  | n + 1, w =>
    match w.turn with
    | some w' => after n w'
    | none => w

/-- How many turns are left. -/
def left (w : Writer) : Nat := (w.pieces.map Piece.turns).sum

/-- `turn` does nothing if no pieces are left. -/
theorem turn_eq_none_iff (w : Writer) : w.turn = none ↔ w.pieces = [] := by
  -- In all branches but the first there is a next writer.
  unfold turn
  split <;> simp

/-- No turns are `left` if no pieces are. -/
theorem left_eq_zero_iff (w : Writer) : w.left = 0 ↔ w.pieces = [] := by
  obtain ⟨done, pieces⟩ := w
  cases pieces with
  | nil => simp [left]
  | cons p rest =>
    have hpos := p.turns_pos
    simp only [left, List.map_cons, List.sum_cons, List.cons_ne_nil, iff_false]
    omega

/-- `turn` leaves one turn less to take, and what will have been written in the end. -/
theorem turn_spec {w w' : Writer} (h : w.turn = some w') :
    w.left = w'.left + 1 ∧ writePieces w.done w.pieces = writePieces w'.done w'.pieces := by
  obtain ⟨done, pieces⟩ := w
  cases pieces with
  | nil => cases h
  | cons p rest =>
    cases p with
    | text s =>
      cases h
      refine ⟨?_, by rw [writePieces]⟩
      simp only [left, List.map_cons, List.sum_cons, Piece.turns]
      omega
    | tree e =>
      -- A leaf is written at once, and any other tree is replaced by its parts.
      cases e with
      | literal _ | unknown _ =>
        cases h
        refine ⟨?_, by rw [writePieces]⟩
        simp only [left, List.map_cons, List.sum_cons, Piece.turns, turns]
        omega
      -- The parts together take one turn less than the tree.
      | neg e =>
        cases h
        refine ⟨?_, by conv_lhs => rw [writePieces]⟩
        simp only [left, List.map_cons, List.sum_cons, Piece.turns, turns]
        omega
      | binary op l r =>
        cases h
        refine ⟨?_, by conv_lhs => rw [writePieces]⟩
        simp only [left, List.map_cons, List.sum_cons, Piece.turns, turns]
        omega

/-- `after` some turns there are as many less to take, and what will have been written is the same.
-/
theorem after_spec {n : Nat} {w : Writer} (h : n ≤ w.left) :
    w.left = (w.after n).left + n ∧
      writePieces w.done w.pieces = writePieces (w.after n).done (w.after n).pieces := by
  -- On the turns, each of which `turn_spec` is about.
  induction n generalizing w with
  | zero => exact ⟨rfl, rfl⟩
  | succ n ih =>
    cases hturn : w.turn with
    | none =>
      have hnone := (left_eq_zero_iff w).mpr ((turn_eq_none_iff w).mp hturn)
      omega
    | some w' =>
      obtain ⟨hleft, hwritten⟩ := turn_spec hturn
      obtain ⟨hleft', hwritten'⟩ := ih (w := w') (by omega)
      have hafter : w.after (n + 1) = w'.after n := by rw [after, hturn]
      rw [hafter]
      exact ⟨by omega, hwritten.trans hwritten'⟩

/-- `start` has the turns of the tree to take. -/
theorem left_start (e : Expr) : (start e).left = e.turns := rfl

/-- `after` fewer turns than the tree takes, pieces are left. -/
theorem pieces_after_start_ne_nil {e : Expr} {n : Nat} (h : n < e.turns) :
    ((start e).after n).pieces ≠ [] := by
  -- Turns are left, and then so are pieces.
  have hleft := (after_spec (w := start e) (n := n) (by rw [left_start]; omega)).1
  rw [left_start] at hleft
  rw [Ne, ← left_eq_zero_iff]
  omega

/-- `after` the turns of the tree, `render` of it is written and nothing is left. -/
theorem after_start (e : Expr) : (start e).after e.turns = ⟨e.render, []⟩ := by
  obtain ⟨hleft, hwritten⟩ := after_spec (w := start e) (Nat.le_of_eq (left_start e).symm)
  have hnil : ((start e).after e.turns).pieces = [] := by
    rw [← left_eq_zero_iff]
    rw [left_start] at hleft
    omega
  have hdone : e.render = ((start e).after e.turns).done := by
    rw [hnil, writePieces] at hwritten
    exact hwritten
  calc (start e).after e.turns
      = ⟨((start e).after e.turns).done, ((start e).after e.turns).pieces⟩ := rfl
    _ = ⟨e.render, []⟩ := by rw [hnil, hdone]

end Writer

/-! ## Words -/

/-- Whether a character stands between the words of a text: a space or a parenthesis. -/
def isMark (c : Char) : Bool := c == ' ' || c == '(' || c == ')'

/-- A word that can be told from a parenthesis and from a minus sign. -/
structure IsWord (cs : List Char) : Prop where
  ne_nil : cs ≠ []
  ne_minus : cs ≠ ['-']
  unmarked : ∀ c ∈ cs, ¬ isMark c

/-- A word goes on up to here. -/
def EndsWord (rest : List Char) : Prop := ∀ c ∈ rest.head?, isMark c

/-- A word ends in front of a mark. -/
theorem endsWord_cons {c : Char} (h : isMark c) {rest : List Char} : EndsWord (c :: rest) := by
  rintro d ⟨⟩
  exact h

/-- A word says where it ends. -/
theorem append_inj_of_unmarked {cs ds u v : List Char} (hcs : ∀ c ∈ cs, ¬ isMark c)
    (hds : ∀ c ∈ ds, ¬ isMark c) (hu : EndsWord u) (hv : EndsWord v)
    (h : cs ++ u = ds ++ v) : cs = ds ∧ u = v := by
  -- Character by character; the word that ends first meets a mark in the other.
  induction cs generalizing ds with
  | nil =>
    cases ds with
    | nil => exact ⟨rfl, h⟩
    | cons d ds =>
      have hmark : isMark d := hu d (by rw [← List.nil_append u, h]; rfl)
      exact absurd hmark (hds d List.mem_cons_self)
  | cons c cs ih =>
    cases ds with
    | nil =>
      have hmark : isMark c := hv c (by rw [← List.nil_append v, ← h]; rfl)
      exact absurd hmark (hcs c List.mem_cons_self)
    | cons d ds =>
      obtain ⟨rfl, hrest⟩ := List.cons.inj h
      obtain ⟨rfl, huv⟩ := ih (fun a ha => hcs a (List.mem_cons_of_mem c ha))
        (fun a ha => hds a (List.mem_cons_of_mem c ha)) hrest
      exact ⟨rfl, huv⟩

/-- `text` of a number cannot be taken for anything else. -/
theorem isWord_text (x : Float) : IsWord (Number.text x).toList := by
  cases hx : Binary64.datum x with
  | nan =>
    rw [Number.text_of_nan hx]
    exact ⟨by decide, by decide, List.any_eq_false.mp rfl⟩
  | infinite negative =>
    rw [Number.text_of_infinite hx]
    cases negative <;> exact ⟨by decide, by decide, List.any_eq_false.mp rfl⟩
  | finite negative n =>
    -- What denotes a number is neither empty nor a sign, and has no space or parenthesis in it.
    obtain ⟨d, hd, _⟩ := Number.exists_denoted?_text hx
    refine ⟨?_, ?_, fun c hc hmark => ?_⟩
    · intro hnil
      rw [hnil] at hd
      cases hd
    · intro hminus
      rw [hminus] at hd
      cases hd
    · have hfigure := Number.isFigure_of_denoted? hd c hc
      simp only [isMark, Bool.or_eq_true, beq_iff_eq] at hmark
      rcases hmark with (rfl | rfl) | rfl <;> cases hfigure

/-! ## Texts of trees -/

/-- Whether a tree has no leaves but numbers. -/
def Known : Expr → Prop
  | literal _ => True
  | neg e => e.Known
  | binary _ l r => l.Known ∧ r.Known
  | unknown _ => False

/-- Trees with the same shape, the same operations and numbers with the same texts. -/
inductive SameText : Expr → Expr → Prop
  | literal {v w : Float} (h : Number.text v = Number.text w) : SameText (literal v) (literal w)
  | neg {e f : Expr} (h : SameText e f) : SameText (neg e) (neg f)
  | binary (op : BinaryOp) {l l' r r' : Expr} (hl : SameText l l') (hr : SameText r r') :
      SameText (binary op l r) (binary op l' r')

/-- The characters of the text of a negation. -/
theorem toList_text_neg (e : Expr) :
    (neg e).text.toList = '(' :: '-' :: ' ' :: (e.text.toList ++ [')']) := by
  simp [text]

/-- The characters of the text of an operation. -/
theorem toList_text_binary (op : BinaryOp) (l r : Expr) :
    (binary op l r).text.toList =
      '(' :: (l.text.toList ++ ' ' :: (op.symbol.toList ++ ' ' :: (r.text.toList ++ [')']))) := by
  simp [text]

/-- The characters of the text of a negation, with more behind it. -/
theorem toList_text_neg_append (e : Expr) (u : List Char) :
    (neg e).text.toList ++ u = '(' :: '-' :: ' ' :: (e.text.toList ++ ')' :: u) := by
  simp [toList_text_neg]

/-- The characters of the text of an operation, with more behind it. -/
theorem toList_text_binary_append (op : BinaryOp) (l r : Expr) (u : List Char) :
    (binary op l r).text.toList ++ u =
      '(' :: (l.text.toList ++ ' ' ::
        (op.symbol.toList ++ ' ' :: (r.text.toList ++ ')' :: u))) := by
  simp [toList_text_binary]

/-- The `symbol` of an operation says which one it is. -/
theorem symbol_append_inj {op op' : BinaryOp} {u v : List Char}
    (h : op.symbol.toList ++ u = op'.symbol.toList ++ v) : op = op' ∧ u = v := by
  -- Each sign is one character, and no two are the same.
  cases op <;> cases op' <;> simp_all [BinaryOp.symbol]

/-- No `text` of a tree starts with a minus sign that stands by itself. -/
theorem text_append_ne_minus {e : Expr} (he : e.Known) {u v : List Char} (hu : EndsWord u) :
    e.text.toList ++ u ≠ '-' :: ' ' :: v := by
  intro h
  cases e with
  | literal x =>
    -- A number is a word, and no word is a minus sign alone.
    have hword := isWord_text x
    have hminus : ∀ c ∈ ['-'], ¬ isMark c := List.forall_mem_singleton.mpr (by decide)
    have hspace : EndsWord (' ' :: v) := endsWord_cons rfl
    exact hword.ne_minus (append_inj_of_unmarked hword.unmarked hminus hu hspace h).1
  | neg e =>
    rw [toList_text_neg_append] at h
    exact absurd (List.cons.inj h).1 (by decide)
  | binary op l r =>
    rw [toList_text_binary_append] at h
    exact absurd (List.cons.inj h).1 (by decide)
  | unknown name => exact he

/-- No `text` of a number starts with a parenthesis. -/
theorem text_literal_append_ne (x : Float) (u v : List Char) :
    (literal x).text.toList ++ u ≠ '(' :: v := by
  intro h
  have hword := isWord_text x
  -- The first character of a word is no parenthesis.
  obtain ⟨c, cs, hc⟩ := List.exists_cons_of_ne_nil hword.ne_nil
  rw [text, hc] at h
  obtain ⟨rfl, _⟩ := List.cons.inj h
  exact hword.unmarked '(' (by rw [hc]; exact List.mem_cons_self) rfl

/-- `text` of a tree says where it ends, and what the tree looks like. -/
theorem text_append_inj {e e' : Expr} (he : e.Known) (he' : e'.Known) {u v : List Char}
    (hu : EndsWord u) (hv : EndsWord v) (h : e.text.toList ++ u = e'.text.toList ++ v) :
    SameText e e' ∧ u = v := by
  -- On the first tree: what stands behind an operand ends it in both texts.
  induction e generalizing e' u v with
  | literal x =>
    cases e' with
    | literal y =>
      obtain ⟨htext, huv⟩ :=
        append_inj_of_unmarked (isWord_text x).unmarked (isWord_text y).unmarked hu hv h
      exact ⟨.literal (String.toList_inj.mp htext), huv⟩
    | neg f =>
      rw [toList_text_neg_append] at h
      exact absurd h (text_literal_append_ne x u _)
    | binary op l r =>
      rw [toList_text_binary_append] at h
      exact absurd h (text_literal_append_ne x u _)
    | unknown name => exact absurd he' id
  | neg e ih =>
    rw [toList_text_neg_append] at h
    cases e' with
    | literal y => exact absurd h.symm (text_literal_append_ne y v _)
    | neg f =>
      rw [toList_text_neg_append] at h
      simp only [List.cons.injEq, true_and] at h
      have hf : f.Known := he'
      obtain ⟨hsame, hrest⟩ := ih he hf (endsWord_cons rfl) (endsWord_cons rfl) h
      exact ⟨.neg hsame, (List.cons.inj hrest).2⟩
    | binary op l r =>
      -- The sign of the one would have to be the left operand of the other.
      rw [toList_text_binary_append] at h
      simp only [List.cons.injEq, true_and] at h
      exact absurd h.symm (text_append_ne_minus he'.1 (endsWord_cons rfl))
    | unknown name => exact absurd he' id
  | binary op l r ihl ihr =>
    rw [toList_text_binary_append] at h
    cases e' with
    | literal y => exact absurd h.symm (text_literal_append_ne y v _)
    | neg f =>
      rw [toList_text_neg_append] at h
      simp only [List.cons.injEq, true_and] at h
      exact absurd h (text_append_ne_minus he.1 (endsWord_cons rfl))
    | binary op' l' r' =>
      -- The left operand ends at the space, the right one at the parenthesis.
      rw [toList_text_binary_append] at h
      simp only [List.cons.injEq, true_and] at h
      obtain ⟨hl, hsign⟩ := ihl he.1 he'.1 (endsWord_cons rfl) (endsWord_cons rfl) h
      obtain ⟨rfl, hright⟩ := symbol_append_inj (List.cons.inj hsign).2
      obtain ⟨hr, hrest⟩ :=
        ihr he.2 he'.2 (endsWord_cons rfl) (endsWord_cons rfl) (List.cons.inj hright).2
      exact ⟨.binary op hl hr, (List.cons.inj hrest).2⟩
    | unknown name => exact absurd he' id
  | unknown name => exact absurd he id

/-- `SameText` trees have the same text. -/
theorem SameText.text_eq {e e' : Expr} (h : SameText e e') : e.text = e'.text := by
  induction h with
  | literal h => exact h
  | neg _ ih => rw [text, text, ih]
  | binary op _ _ ihl ihr => rw [text, text, ihl, ihr]

/-- `render` writes two trees alike if they are `SameText`, and only then. -/
theorem render_eq_iff {e e' : Expr} (he : e.Known) (he' : e'.Known) :
    e.render = e'.render ↔ SameText e e' := by
  have hnil : EndsWord [] := by rintro c ⟨⟩
  rw [render_eq_text, render_eq_text]
  exact ⟨fun h => (text_append_inj he he' hnil hnil (by rw [h])).1, SameText.text_eq⟩

/-! ## Trees of lines -/

/-- Signed numbers have no leaves but numbers. -/
theorem IsSigned.known {e : Expr} (h : IsSigned e) : e.Known := by
  cases h <;> trivial

/-- Products have no leaves but numbers. -/
theorem IsProduct.known {e : Expr} (h : IsProduct e) : e.Known := by
  induction h with
  | signed h => exact h.known
  | binary _ _ hr ih => exact ⟨ih, hr.known⟩

/-- Terms have no leaves but numbers. -/
theorem IsTerm.known {e : Expr} (h : IsTerm e) : e.Known := by
  induction h with
  | product h => exact h.known
  | binary _ _ hr ih => exact ⟨ih, hr.known⟩

end Expr

namespace Line

/-- `run` has the results of trees that stand for the tokens of a line. -/
theorem mem_terms_of_inorder {source : String} {tokens : List Token}
    (hscan : Token.scan source = .ok tokens) {es : List Expr} (hes : Expr.Canonical es)
    (h : tokens.map Token.symbol = es.flatMap Expr.inorder) {e : Expr} (he : e ∈ es) :
    .ofExpr e ∈ (run source).terms := by
  refine (mem_terms_of_scan_ok hscan _).mpr (Or.inl ⟨e, ?_, rfl⟩)
  rw [Expr.termsOf_of_inorder hes h]
  exact he

variable {output : OutputSettings}

/-- `showTerm` prints the tree of a term first, where trees are asked for. -/
theorem head?_prints_showTerm (h : output.showAst) {t : TermResult} {e : Expr}
    (he : t.expr = some e) :
    (showTerm output t).prints.head? = some (.line .dim ("ast: " ++ e.render)) := by
  have htree : treePrints output t = [.line .dim ("ast: " ++ e.render)] := by
    simp [treePrints, he, h]
  rcases showTerm_cases output t with ⟨p, _, hshow⟩ | ⟨_, _, _, _, hshow⟩ <;>
    rw [hshow, htree] <;> rfl

/-- Lines that show trees are the same if the trees are rendered alike. -/
theorem treeLine_inj {e e' : Expr} :
    Print.line .dim ("ast: " ++ e.render) = .line .dim ("ast: " ++ e'.render) ↔
      e.render = e'.render := by
  simp [Print.line, String.append_left_inj, String.append_right_inj]

end Line

namespace Expr

/-- `render` is what the writer ends with, a text that is put together from those of the parts of
the tree.  Trees have one text only if they have one shape with the same operations, and numbers
with the same texts (`SameText`); and so it is with the trees that `showTerm` prints for the terms
of lines. -/
theorem render_readable :
    (∀ e : Expr, (∀ n < e.turns, ((Writer.start e).after n).pieces ≠ []) ∧
      (Writer.start e).after e.turns = ⟨e.render, []⟩) ∧
    (∀ v, (literal v).render = Number.text v) ∧
    (∀ e, (neg e).render = "(- " ++ e.render ++ ")") ∧
    (∀ op l r, (binary op l r).render =
      "(" ++ l.render ++ " " ++ op.symbol ++ " " ++ r.render ++ ")") ∧
    (∀ e e', e.Known → e'.Known → (e.render = e'.render ↔ SameText e e')) ∧
    ∀ (output : OutputSettings) (source source' : String) (t t' : TermResult) (e e' : Expr),
      output.showAst → t ∈ (Line.run source).terms → t' ∈ (Line.run source').terms →
      t.expr = some e → t'.expr = some e' →
      ((Line.showTerm output t).prints.head? = (Line.showTerm output t').prints.head? ↔
        SameText e e') := by
  refine ⟨fun e => ⟨fun n hn => Writer.pieces_after_start_ne_nil hn, Writer.after_start e⟩,
    fun v => ?_, fun e => ?_, fun op l r => ?_, fun e e' he he' => render_eq_iff he he', ?_⟩
  · rw [render_eq_text, text]
  · rw [render_eq_text, render_eq_text, text]
  · rw [render_eq_text, render_eq_text, render_eq_text, text]
  · intro output source source' t t' e e' houtput ht ht' he he'
    -- Trees of lines are terms, and so have no other leaves.
    have hknown := (Line.isTerm_of_mem_terms ht he).known
    have hknown' := (Line.isTerm_of_mem_terms ht' he').known
    rw [Line.head?_prints_showTerm houtput he, Line.head?_prints_showTerm houtput he',
      Option.some_inj, Line.treeLine_inj, render_eq_iff hknown hknown']

/-- `render_readable` for a negation and a negative number, which have different texts, for two
groupings of one line's tokens, and for the trees that are printed for two lines, one of them with a
sign in front. -/
theorem render_readable_minus :
    let one := literal (Number.ofNumeral ['1'])
    let output : OutputSettings := { showAst := true }
    (neg one).render ≠ (literal (-1)).render ∧
      (binary .sub (binary .sub one one) one).render ≠
        (binary .sub one (binary .sub one one)).render ∧
      (Line.showTerm output (.ofExpr one)).prints.head? ≠
        (Line.showTerm output (.ofExpr (neg one))).prints.head? := by
  intro one output
  obtain ⟨_, _, _, _, hrender, hline⟩ := render_readable
  have hplain : Token.scan "1" = .ok [Token.ofNumeral ['1'] 0] :=
    Token.scan_eq_ok_iff.mpr ⟨by decide, rfl⟩
  have hsigned : Token.scan "-1" = .ok [Token.ofOperator .minus '-' 0, Token.ofNumeral ['1'] 1] :=
    Token.scan_eq_ok_iff.mpr ⟨by decide, rfl⟩
  have hone : Canonical [one] := ⟨by decide, by decide⟩
  have hneg : Canonical [neg one] := ⟨by decide, by decide⟩
  have hterm := Line.mem_terms_of_inorder hplain hone rfl List.mem_cons_self
  have hterm' := Line.mem_terms_of_inorder hsigned hneg rfl List.mem_cons_self
  have hline := hline output "1" "-1" _ _ one (neg one) rfl hterm hterm' rfl rfl
  have hleaf : ∀ v w, ¬ SameText (neg (literal v)) (literal w) := nofun
  have hsign : ∀ v w, ¬ SameText (literal v) (neg (literal w)) := nofun
  refine ⟨fun h => ?_, fun h => ?_, fun h => hsign _ _ (hline.mp h)⟩
  · exact hleaf _ _ ((hrender (neg one) (literal (-1)) trivial trivial).mp h)
  · have hleft : (binary .sub (binary .sub one one) one).Known := ⟨⟨trivial, trivial⟩, trivial⟩
    have hright : (binary .sub one (binary .sub one one)).Known := ⟨trivial, trivial, trivial⟩
    have hgroup : ∀ v l r, ¬ SameText (binary .sub l r) (literal v) := nofun
    cases (hrender _ _ hleft hright).mp h with
    | binary _ hl _ => exact hgroup _ _ _ hl

end Expr

end Reckoner
