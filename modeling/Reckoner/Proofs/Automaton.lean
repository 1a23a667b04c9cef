import Reckoner.Proofs.Grammar

/-!
# An automaton for the grammar

Four states say all that the kinds read so far mean for those to come.  The grammar is ambiguous but
the automaton is not: behind a number every sign goes on with the term, and since a minus sign that
goes on allows whatever a minus sign that starts a term allows, no line of the grammar is lost.

## Key results

- `mem_program_iff`: the lines of the grammar are those that the automaton accepts
- `viable_iff`: what a line can start with is what does not get the automaton stuck
- `eq_number_of_concat_mem_program`: a line ends in a number
-/

namespace Reckoner.Grammar

open Token (Kind)
open Computability

/-- What the kinds read so far ask for: a state of `run`. -/
inductive State where
  /-- Nothing has been read. -/
  | start
  /-- The last kind is a number, so that the line may end here. -/
  | complete
  /-- The last kind is the sign of a sum or a product. -/
  | operand
  /-- The last kind is the minus sign of a number. -/
  | negated
deriving DecidableEq, Repr

namespace State

/-- The state behind one more kind, if it may come next: a step of `run`. -/
def next? : State → Kind → Option State
  | start, .number | complete, .number | operand, .number | negated, .number => some complete
  | start, .minus | operand, .minus => some negated
  | complete, .plus | complete, .minus | complete, .star | complete, .slash => some operand
  | start, _ | operand, _ | negated, _ => none

/-- The state behind all of the kinds, if each may come where it does. -/
def run (q : State) : List Kind → Option State
  | [] => some q
  | k :: ks => (q.next? k).bind fun q' => q'.run ks

/-- Whether a line may end here. -/
def isFinal : State → Bool
  | start | complete => true
  | operand | negated => false

/-- The fewest kinds that bring `run` to an end from here. -/
def completion : State → List Kind
  | start | complete => []
  | operand | negated => [.number]

/-! ## Runs -/

/-- `run` stays where it is over no kinds. -/
@[simp] theorem run_nil (q : State) : q.run [] = some q := rfl

/-- `run` over joined kinds goes on from where it is behind the first of them. -/
theorem run_append (q : State) (front back : List Kind) :
    q.run (front ++ back) = (q.run front).bind fun q' => q'.run back := by
  induction front generalizing q with
  | nil => rfl
  | cons k ks ih =>
    simp only [List.cons_append, run]
    cases q.next? k with
    | none => rfl
    | some q' => exact ih q'

/-- `run_append` where the first kinds are known to get through. -/
theorem run_append_of_eq {q q' : State} {front : List Kind} (h : q.run front = some q')
    (back : List Kind) : q.run (front ++ back) = q'.run back := by
  rw [run_append, h, Option.bind_some]

/-- `run` over one more kind is `next?` behind the others. -/
theorem run_concat (q : State) (kinds : List Kind) (k : Kind) :
    q.run (kinds ++ [k]) = (q.run kinds).bind fun q' => q'.next? k := by
  rw [run_append]
  congr 1
  funext q'
  simp [run]

/-! ## The grammar is accepted -/

/-- `run` takes a `unary` from wherever the minus sign of a number has not been read. -/
theorem run_unary {q : State} (hq : q ≠ negated) {kinds : List Kind} (h : kinds ∈ unary) :
    q.run kinds = some complete := by
  -- With a minus sign the number is read in `negated`, from which no second sign is taken.
  rcases (mem_unary kinds).mp h with rfl | rfl
  · cases q <;> first | rfl | exact absurd rfl hq
  · cases q <;> rfl

/-- `run` keeps a line complete over any number of rounds if it does over each. -/
theorem run_kstar {l : Language Kind} (h : ∀ w ∈ l, complete.run w = some complete)
    {kinds : List Kind} (hk : kinds ∈ l∗) : complete.run kinds = some complete := by
  obtain ⟨parts, rfl, hparts⟩ := Language.mem_kstar.mp hk
  clear hk
  -- Round after round, the line stays complete.
  induction parts with
  | nil => rfl
  | cons w ws ih =>
    rw [List.flatten_cons, run_append_of_eq (h w (hparts w List.mem_cons_self))]
    exact ih fun y hy => hparts y (List.mem_cons_of_mem w hy)

/-- `run` keeps a line complete over a sign and what it asks for. -/
theorem run_sign_mul {sign operands : Language Kind}
    (hsign : ∀ w ∈ sign, complete.run w = some operand)
    (hoperands : ∀ w ∈ operands, operand.run w = some complete) :
    ∀ w ∈ sign * operands, complete.run w = some complete := by
  intro w hw
  obtain ⟨s, hs, o, ho, rfl⟩ := Language.mem_mul.mp hw
  rw [run_append_of_eq (hsign s hs), hoperands o ho]

/-- `run` asks for an operand behind a `productSign`. -/
theorem run_productSign : ∀ w ∈ productSign, complete.run w = some operand := by
  intro w hw
  rcases (mem_productSign w).mp hw with rfl | rfl <;> rfl

/-- `run` asks for an operand behind a `sumSign`. -/
theorem run_sumSign : ∀ w ∈ sumSign, complete.run w = some operand := by
  intro w hw
  rcases (mem_sumSign w).mp hw with rfl | rfl <;> rfl

/-- `run` takes a `factor` wherever it takes a `unary`. -/
theorem run_factor {q : State} (hq : q ≠ negated) {kinds : List Kind} (h : kinds ∈ factor) :
    q.run kinds = some complete := by
  obtain ⟨u, hu, us, hus, rfl⟩ := Language.mem_mul.mp h
  rw [run_append_of_eq (run_unary hq hu)]
  exact run_kstar (run_sign_mul run_productSign fun w hw => run_unary (by decide) hw) hus

/-- `run` takes a `term` wherever it takes a `unary`. -/
theorem run_term {q : State} (hq : q ≠ negated) {kinds : List Kind} (h : kinds ∈ term) :
    q.run kinds = some complete := by
  obtain ⟨f, hf, fs, hfs, rfl⟩ := Language.mem_mul.mp h
  rw [run_append_of_eq (run_factor hq hf)]
  exact run_kstar (run_sign_mul run_sumSign fun w hw => run_factor (by decide) hw) hfs

/-- `run` accepts every line of `program`. -/
theorem run_program {kinds : List Kind} (h : kinds ∈ program) :
    ∃ q, start.run kinds = some q ∧ q.isFinal := by
  obtain ⟨parts, rfl, hparts⟩ := Language.mem_kstar.mp h
  cases parts with
  | nil => exact ⟨start, rfl, rfl⟩
  | cons t ts =>
    -- Only the first term meets the start of the line, and all others a complete one.
    refine ⟨complete, ?_, rfl⟩
    rw [List.flatten_cons, run_append_of_eq (run_term (by decide) (hparts t List.mem_cons_self))]
    refine run_kstar (fun w hw => run_term (by decide) hw) (Language.join_mem_kstar ?_)
    exact fun y hy => hparts y (List.mem_cons_of_mem t hy)

/-! ## What is accepted is in the grammar -/

/-- What a state knows of the kinds that led to it: how they become a line that ends in a term. -/
def Knows : State → List Kind → Prop
  | start, kinds => kinds = []
  | complete, kinds => kinds ∈ program * term
  | operand, kinds => ∀ u ∈ unary, kinds ++ u ∈ program * term
  | negated, kinds => kinds ++ [.number] ∈ program * term

/-- A number is a `unary`. -/
theorem number_mem_unary : [Kind.number] ∈ unary := (mem_unary _).mpr (Or.inr rfl)

/-- A number behind a minus sign is a `unary`. -/
theorem minus_number_mem_unary : [Kind.minus, Kind.number] ∈ unary :=
  (mem_unary _).mpr (Or.inl rfl)

/-- A `unary` is a line of one term. -/
theorem unary_le_program_mul_term : unary ≤ program * term :=
  calc unary ≤ term := unary_le_factor.trans factor_le_term
    _ ≤ program * term := le_mul_of_one_le_left' one_le_kstar

/-- The last `term` of a line goes on behind either kind of sign. -/
theorem program_mul_term_mul_sign_le :
    program * term * ((sumSign + productSign) * unary) ≤ program * term := by
  rw [mul_assoc]
  refine mul_le_mul_right ?_ _
  -- The two kinds of signs apart: one is taken up by the term, the other by its last factor.
  rw [add_mul, mul_add]
  have hsum : term * (sumSign * unary) ≤ term :=
    le_trans (by grw [unary_le_factor]) term_mul_sumSign_le
  grw [hsum, term_mul_productSign_le, Language.add_self]

/-- A line that `Knows` a complete term asks for a `unary` behind every sign. -/
theorem Knows.operand_of_complete {kinds : List Kind} (h : Knows complete kinds) {k : Kind}
    (hk : k.isOperator) : Knows operand (kinds ++ [k]) := by
  intro u hu
  rw [List.append_assoc]
  refine program_mul_term_mul_sign_le
    (Language.append_mem_mul h (Language.append_mem_mul ?_ hu))
  rw [Language.mem_add, mem_sumSign, mem_productSign]
  cases k <;> simp_all [Kind.isOperator]

/-- A line that `Knows` a complete term starts another one with a number. -/
theorem Knows.complete_of_complete {kinds : List Kind} (h : Knows complete kinds) :
    Knows complete (kinds ++ [.number]) :=
  Language.append_mem_mul (program_mul_term_le h)
    (unary_le_factor.trans factor_le_term number_mem_unary)

/-- `next?` keeps what a state `Knows`. -/
theorem Knows.next {q q' : State} {kinds : List Kind} {k : Kind} (h : Knows q kinds)
    (hq : q.next? k = some q') : Knows q' (kinds ++ [k]) := by
  cases q with
  | start =>
    obtain rfl : kinds = [] := h
    cases k <;> cases hq
    · exact unary_le_program_mul_term number_mem_unary
    · exact unary_le_program_mul_term minus_number_mem_unary
  | complete =>
    -- Only here does the grammar leave a choice: a minus sign goes on with the term.
    cases k with
    | number => cases hq; exact h.complete_of_complete
    | plus | minus | star | slash => cases hq; exact h.operand_of_complete rfl
  | operand =>
    cases k <;> cases hq
    · exact h _ number_mem_unary
    · -- The minus sign and the number to come are one operand.
      show kinds ++ [Kind.minus] ++ [Kind.number] ∈ program * term
      rw [List.append_assoc]
      exact h _ minus_number_mem_unary
  | negated => cases k <;> cases hq; exact h

/-- A state `Knows` the kinds that `run` has come to it by. -/
theorem Knows.of_run {q : State} {kinds : List Kind} (h : start.run kinds = some q) :
    Knows q kinds := by
  -- From the right, so that the last kind is the one that the state knows best.
  induction kinds using List.reverseRecOn generalizing q with
  | nil => cases h; rfl
  | append_singleton ks k ih =>
    rw [run_concat] at h
    obtain ⟨q', hq', hk⟩ := Option.bind_eq_some_iff.mp h
    exact (ih hq').next hk

end State

open State

/-! ## The two characterizations -/

/-- The lines of `program` are those that `run` accepts. -/
theorem mem_program_iff (kinds : List Kind) :
    kinds ∈ program ↔ ∃ q, start.run kinds = some q ∧ q.isFinal := by
  refine ⟨run_program, ?_⟩
  intro ⟨q, hq, hfinal⟩
  -- A final state knows its kinds as a line, or as nothing at all.
  have h := Knows.of_run hq
  cases q with
  | start =>
    obtain rfl : kinds = [] := h
    exact Language.nil_mem_kstar term
  | complete => exact program_mul_term_le h
  | operand | negated => cases hfinal

/-- `run` accepts once it has been given the `completion` of a state. -/
theorem run_completion (q : State) : ∃ q', q.run q.completion = some q' ∧ q'.isFinal := by
  cases q <;> exact ⟨_, rfl, rfl⟩

/-- A line is `Viable` if it does not get `run` stuck. -/
theorem viable_iff (kinds : List Kind) : Viable kinds ↔ ∃ q, start.run kinds = some q := by
  constructor
  · intro ⟨rest, hrest⟩
    obtain ⟨_, hrun, _⟩ := (mem_program_iff _).mp hrest
    rw [run_append] at hrun
    obtain ⟨q, hq, _⟩ := Option.bind_eq_some_iff.mp hrun
    exact ⟨q, hq⟩
  · intro ⟨q, hq⟩
    -- What does not get stuck can be completed from where it is.
    obtain ⟨q', hq', hfinal⟩ := run_completion q
    refine ⟨q.completion, (mem_program_iff _).mpr ⟨q', ?_, hfinal⟩⟩
    rw [run_append_of_eq hq, hq']

/-! ## Lines end in numbers -/

/-- `next?` takes a number in every state. -/
theorem next?_number (q : State) : q.next? .number = some complete := by
  cases q <;> rfl

/-- `next?` comes to a final state by a number only. -/
theorem eq_number_of_next? {q q' : State} {k : Kind} (h : q.next? k = some q')
    (hfinal : q'.isFinal) : k = .number := by
  cases q <;> cases k <;> cases h <;> first | rfl | cases hfinal

/-- A `Viable` line that ends in a number is one of `program`. -/
theorem Viable.mem_program_of_concat_number {kinds : List Kind}
    (h : Viable (kinds ++ [.number])) : kinds ++ [.number] ∈ program := by
  obtain ⟨q, hq⟩ := (viable_iff _).mp h
  refine (mem_program_iff _).mpr ⟨q, hq, ?_⟩
  rw [run_concat] at hq
  obtain ⟨q', _, hq'⟩ := Option.bind_eq_some_iff.mp hq
  rw [next?_number] at hq'
  cases hq'
  rfl

/-- A line of `program` can go on with a number. -/
theorem viable_concat_number {kinds : List Kind} (h : kinds ∈ program) :
    Viable (kinds ++ [.number]) :=
  Viable.of_mem (program_mul_term_le (Language.append_mem_mul h
    (unary_le_factor.trans factor_le_term number_mem_unary)))

/-- A line of `program` that is not empty ends in a number. -/
theorem eq_number_of_concat_mem_program {kinds : List Kind} {k : Kind}
    (h : kinds ++ [k] ∈ program) : k = .number := by
  obtain ⟨q, hq, hfinal⟩ := (mem_program_iff _).mp h
  rw [run_concat] at hq
  obtain ⟨q', _, hq'⟩ := Option.bind_eq_some_iff.mp hq
  exact eq_number_of_next? hq' hfinal

end Reckoner.Grammar
