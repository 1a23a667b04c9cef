import Reckoner.Proofs.Quoting
import Reckoner.Proofs.ValueRules
import Reckoner.Settings.Basic

/-!
# Checks

A check looks at one value of a document, a section or what a key of it holds, and passes if there
is none.  Checks are made in order: the first that fails is the one that is reported, whatever else
is wrong, and what is behind it is not looked at.

## Key results

- `accepts_iff`: a check accepts what it has nothing against
- `forall_holds_iff`: without a fault all checks pass
- `Makes.bind`: checks behind one another
-/

namespace Reckoner

namespace Settings

open Toml (Value Entries)

/-- The value of a key in a section, if the section is a table and holds the key. -/
def valueAt? (document : Entries) (name key : String) : Option Value :=
  match document.get? name with
  | some (.table entries) => Entries.get? entries key
  | _ => none

/-! ## Single checks -/

/-- The kinds of values that are asked for. -/
inductive Kind where
  | text
  | flag
  | whole
deriving DecidableEq, Repr

/-- A value is of a kind.  Truth values are no whole numbers. -/
def Kind.Has : Kind → Value → Prop
  | text, v => ∃ s, v = .string s
  | flag, v => ∃ b, v = .boolean b
  | whole, v => ∃ n, v = .integer n

/-- A check of a section, or of the value of a key in it. -/
inductive Check where
  /-- The section is a table. -/
  | table (name : String)
  /-- The value is of a kind. -/
  | kind (k : Kind) (name key : String)
  /-- If the value is a whole number, it is not negative. -/
  | sign (name key : String)
  /-- If the value is a text, it names a level in lower or upper case. -/
  | level (name key : String)
deriving DecidableEq, Repr

namespace Check

/-- What a check looks at. -/
def subject? (document : Entries) : Check → Option Value
  | table name => document.get? name
  | kind _ name key | sign name key | level name key => valueAt? document name key

/-- What a check accepts. -/
def Accepts (v : Value) : Check → Prop
  | table _ => ∃ entries, v = .table entries
  | kind k _ _ => k.Has v
  | sign _ _ => ∀ n, v = .integer n → 0 ≤ n
  | level _ _ => ∀ s, v = .string s →
    Text.uppercase s ∈ ["DEBUG", "INFO", "WARNING", "ERROR", "CRITICAL"]

/-- What a check has against a value. -/
inductive Rejects (room : Room) : Check → Value → LoadFailure → Prop
  | table {name : String} {v : Value} {e : LoadFailure} (h : ∀ entries, v ≠ .table entries)
      (htold : Told room v (.notTable name) e) : Rejects room (.table name) v e
  | kind {k : Kind} {name key : String} {v : Value} {e : LoadFailure} (h : ¬ k.Has v)
      (htold : Told room v (.invalidValue name key) e) : Rejects room (.kind k name key) v e
  | sign {name key : String} {n : Int} {e : LoadFailure} (h : n < 0)
      (htold : Told room (.integer n) .negativePrecision e) :
      Rejects room (.sign name key) (.integer n) e
  | level {name key s : String}
      (h : Text.uppercase s ∉ ["DEBUG", "INFO", "WARNING", "ERROR", "CRITICAL"]) :
      Rejects room (.level name key) (.string s) (.refused (.unknownLevel s))

variable {room : Room}

/-- A check `Rejects` a value for one thing at most. -/
theorem Rejects.unique {c : Check} {v : Value} {e e' : LoadFailure} (h : c.Rejects room v e)
    (h' : c.Rejects room v e') : e = e' := by
  -- The check and the value leave no choice of the rule.
  cases h with
  | table _ htold => cases h' with | table _ htold' => exact htold.unique htold'
  | kind _ htold => cases h' with | kind _ htold' => exact htold.unique htold'
  | sign _ htold => cases h' with | sign _ htold' => exact htold.unique htold'
  | level _ =>
    cases h'
    rfl

/-- A value that is `Quotable` is refused by a check that rejects it. -/
theorem Rejects.exists_refused {c : Check} {v : Value} {e : LoadFailure} (h : c.Rejects room v e)
    (hv : Quotable room v) : ∃ e', e = .refused e' := by
  cases h with
  | table _ htold | kind _ htold | sign _ htold => exact htold.exists_refused hv
  | level _ => exact ⟨_, rfl⟩

/-- A check `Accepts` what it has nothing against, whatever there is room for. -/
theorem accepts_iff (room : Room) (c : Check) (v : Value) :
    c.Accepts v ↔ ∀ e, ¬ c.Rejects room v e := by
  constructor
  · intro h e hr
    cases hr with
    | table hne _ =>
      obtain ⟨entries, rfl⟩ := h
      exact hne entries rfl
    | kind hkind _ => exact hkind h
    | sign hneg _ =>
      have hnonneg := h _ rfl
      omega
    | level hname => exact hname (h _ rfl)
  · -- Conversely, a value that is not accepted is rejected, whatever is told of it.
    intro h
    cases c with
    | table name =>
      by_contra hne
      exact h _ (.table (fun entries hv => hne ⟨entries, hv⟩) (told_iff.mpr rfl))
    | kind k name key =>
      by_contra hkind
      exact h _ (.kind hkind (told_iff.mpr rfl))
    | sign name key =>
      rintro n rfl
      by_contra hneg
      exact h _ (.sign (by omega) (told_iff.mpr rfl))
    | level name key =>
      rintro s rfl
      by_contra hname
      exact h _ (.level hname)

/-- A document passes a check: it has nothing for it to look at, or what it accepts. -/
def Holds (document : Entries) (c : Check) : Prop := ∀ v ∈ c.subject? document, c.Accepts v

/-- A document fails a check. -/
def Fails (room : Room) (document : Entries) (c : Check) (e : LoadFailure) : Prop :=
  ∃ v, c.subject? document = some v ∧ c.Rejects room v e

section Single

variable {document : Entries} {c : Check}

/-- A check `Holds` if nothing makes it fail. -/
theorem holds_iff (room : Room) (document : Entries) (c : Check) :
    c.Holds document ↔ ∀ e, ¬ c.Fails room document e := by
  constructor
  · rintro h e ⟨v, hv, hr⟩
    exact (c.accepts_iff room v).mp (h v hv) e hr
  · intro h v hv
    exact (c.accepts_iff room v).mpr fun e hr => h e ⟨v, hv, hr⟩

/-- A check `Holds` if there is nothing for it to look at. -/
theorem holds_of_none (h : c.subject? document = none) : c.Holds document := by
  intro v hv
  rw [h] at hv
  cases hv

/-- A check `Holds` if it accepts what it looks at. -/
theorem holds_of_some {v : Value} (h : c.subject? document = some v) (hv : c.Accepts v) :
    c.Holds document := by
  intro v' hv'
  rw [h] at hv'
  cases hv'
  exact hv

end Single

end Check

/-! ## Checks in order -/

/-- What is wrong with the first of several checks that fails. -/
inductive FirstFault (room : Room) (document : Entries) : List Check → LoadFailure → Prop
  | here {c : Check} {cs : List Check} {e : LoadFailure} (h : c.Fails room document e) :
      FirstFault room document (c :: cs) e
  | later {c : Check} {cs : List Check} {e : LoadFailure} (hc : c.Holds document)
      (h : FirstFault room document cs e) : FirstFault room document (c :: cs) e

/-- A result is had by checks in order: it is the fault of the first that fails, or no error. -/
structure Makes (room : Room) (document : Entries) (cs : List Check) {α : Type}
    (x : Except LoadFailure α) : Prop where
  error_iff : ∀ e, x = .error e ↔ FirstFault room document cs e

section Order

variable {room : Room} {document : Entries} {c : Check} {cs ds : List Check} {e : LoadFailure}

/-- The `FirstFault` of checks behind one another is in the first of them, or behind it if these
pass. -/
theorem firstFault_append_iff :
    FirstFault room document (cs ++ ds) e ↔ FirstFault room document cs e ∨
      (∀ c ∈ cs, c.Holds document) ∧ FirstFault room document ds e := by
  -- On the first checks: each fails, or passes and leaves the fault to those behind it.
  induction cs with
  | nil =>
    have hnil : ¬ FirstFault room document [] e := nofun
    simp [hnil]
  | cons c cs ih =>
    rw [List.cons_append, List.forall_mem_cons]
    constructor
    · intro h
      cases h with
      | here hc => exact Or.inl (.here hc)
      | later hc h =>
        rcases ih.mp h with h | ⟨hcs, h⟩
        · exact Or.inl (.later hc h)
        · exact Or.inr ⟨⟨hc, hcs⟩, h⟩
    · rintro (h | ⟨⟨hc, hcs⟩, h⟩)
      · cases h with
        | here hc => exact .here hc
        | later hc h => exact .later hc (ih.mpr (Or.inl h))
      · exact .later hc (ih.mpr (Or.inr ⟨hcs, h⟩))

/-- A `FirstFault` is the fault of one of the checks, which has a value to reject. -/
theorem FirstFault.exists_rejects (h : FirstFault room document cs e) :
    ∃ c ∈ cs, ∃ v, c.subject? document = some v ∧ c.Rejects room v e := by
  induction h with
  | here hc => exact ⟨_, List.mem_cons_self, hc⟩
  | later _ _ ih =>
    obtain ⟨c, hc, hrejects⟩ := ih
    exact ⟨c, List.mem_cons_of_mem _ hc, hrejects⟩

/-- All checks hold if and only if there is no `FirstFault`. -/
theorem forall_holds_iff (room : Room) :
    (∀ c ∈ cs, c.Holds document) ↔ ∀ e, ¬ FirstFault room document cs e := by
  induction cs with
  | nil => exact ⟨fun _ _ => nofun, fun _ => List.forall_mem_nil _⟩
  | cons c cs ih =>
    -- A fault is here or later, and there is none if there is neither.
    rw [List.forall_mem_cons, ih, Check.holds_iff room]
    constructor
    · rintro ⟨hc, hcs⟩ e (h | ⟨_, h⟩)
      · exact hc e h
      · exact hcs e h
    · intro h
      have hc : ∀ e, ¬ c.Fails room document e := fun e he => h e (.here he)
      exact ⟨hc, fun e he => h e (.later ((c.holds_iff room document).mpr hc) he)⟩

variable {α β : Type} {x : Except LoadFailure α} {f : α → Except LoadFailure β}

/-- What `Makes` checks gives a result if they all pass. -/
theorem Makes.exists_ok_iff (h : Makes room document cs x) :
    (∃ a, x = .ok a) ↔ ∀ c ∈ cs, c.Holds document := by
  rw [forall_holds_iff room]
  cases x with
  | ok a => simpa using fun e he => nomatch (h.error_iff e).mpr he
  | error e => simpa using ⟨e, (h.error_iff e).mp rfl⟩

/-- A result without an error `Makes` checks that pass. -/
theorem makes_ok {a : α} (h : ∀ c ∈ cs, c.Holds document) : Makes room document cs (.ok a) where
  error_iff e := ⟨nofun, fun he => absurd he ((forall_holds_iff room).mp h e)⟩

/-- A result without an error `Makes` a check that has nothing to look at. -/
theorem makes_ok_of_none {a : α} (h : c.subject? document = none) :
    Makes room document [c] (.ok a) :=
  makes_ok (List.forall_mem_singleton.mpr (Check.holds_of_none h))

/-- A result without an error `Makes` a check that accepts what it looks at. -/
theorem makes_ok_of_accepts {a : α} {v : Value} (h : c.subject? document = some v)
    (hv : c.Accepts v) : Makes room document [c] (.ok a) :=
  makes_ok (List.forall_mem_singleton.mpr (Check.holds_of_some h hv))

/-- The fault of a check `Makes` it and any behind it, at which nothing looks. -/
theorem makes_error (h : c.Fails room document e) :
    Makes room document (c :: cs) (.error e : Except LoadFailure α) := by
  refine ⟨fun e' => ?_⟩
  constructor
  · rintro ⟨⟩
    exact .here h
  · rintro (h' | ⟨hc, _⟩)
    · -- Both faults are of the one value that there is, so that they are the same.
      obtain ⟨v, hv, hr⟩ := h
      obtain ⟨v', hv', hr'⟩ := h'
      cases hv.symm.trans hv'
      rw [hr.unique hr']
    · exact absurd h ((c.holds_iff room document).mp hc e)

/-- What `Makes` checks and goes on with what makes others makes both, one behind the other. -/
theorem Makes.bind (hx : Makes room document cs x)
    (hf : ∀ a, x = .ok a → Makes room document ds (f a)) :
    Makes room document (cs ++ ds) (x.bind f) := by
  refine ⟨fun e => ?_⟩
  -- The first result is there exactly if its checks pass, and then the second one counts.
  rw [firstFault_append_iff, bind_eq_error_iff, ← hx.error_iff e, ← hx.exists_ok_iff]
  refine or_congr_right ?_
  constructor
  · rintro ⟨a, ha, he⟩
    exact ⟨⟨a, ha⟩, ((hf a ha).error_iff e).mp he⟩
  · rintro ⟨⟨a, ha⟩, he⟩
    exact ⟨a, ha, ((hf a ha).error_iff e).mpr he⟩

/-- What `Makes` checks still does when its result is put into another form. -/
theorem Makes.map (h : Makes room document cs x) (g : α → β) :
    Makes room document cs (x.map g) := by
  refine ⟨fun e => ?_⟩
  rw [← h.error_iff e]
  cases x <;> simp [Except.map]

end Order

end Settings

end Reckoner
