import Mathlib.Algebra.Group.Nat.Defs
import Reckoner.Settings.Error

/-!
# Values that can be quoted

A value of a document can be quoted unless it holds a whole number with too many digits, at any
depth.  What becomes of a value that is rejected depends on nothing else than this and the room that
there is for quoting it.

## Key results

- `quoted?_eq_none_iff`: which values `Value.quoted?` has no text for
- `told_iff`: what `refusal` comes to
-/

namespace Reckoner

/-- `decimal?` gives the text of a number that has at most `maxDigits` digits. -/
theorem Number.decimal?_of_lt {n : Int} (h : n.natAbs < 10 ^ maxDigits) :
    decimal? n = some (toString n) := by
  rw [← Nat.pow_eq] at h
  rw [decimal?, if_pos h]

/-- `decimal?` has no text for a number of more than `maxDigits` digits. -/
theorem Number.decimal?_of_le {n : Int} (h : 10 ^ maxDigits ≤ n.natAbs) : decimal? n = none := by
  rw [← Nat.pow_eq] at h
  rw [decimal?, if_neg (Nat.not_lt.mpr h)]

/-- `decimal?` has no text for a number of more than `maxDigits` digits, and for no other. -/
theorem Number.decimal?_eq_none_iff (n : Int) :
    decimal? n = none ↔ 10 ^ maxDigits ≤ n.natAbs := by
  refine ⟨fun hnone => Nat.le_of_not_lt fun hlt => ?_, decimal?_of_le⟩
  rw [decimal?_of_lt hlt] at hnone
  cases hnone

namespace Toml

/-! ## Whole numbers in a value -/

mutual

/-- The whole numbers in a value, at any depth. -/
def Value.integers : Value → List Int
  | .integer n => [n]
  | .array items => itemIntegers items
  | .table entries => entryIntegers entries
  | .string _ | .float _ | .boolean _ | .dateTime _ _ _ | .date _ | .time _ => []

/-- The whole numbers in several values. -/
def itemIntegers : List Value → List Int
  | [] => []
  | v :: rest => v.integers ++ itemIntegers rest

/-- The whole numbers in the entries of a table. -/
def entryIntegers : List (String × Value) → List Int
  | [] => []
  | (_, v) :: rest => v.integers ++ entryIntegers rest

end

/-- Two texts that are had in turn are missing if one of them is. -/
theorem bind_map_eq_none_iff {α β γ : Type} {x : Option α} {y : Option β} (f : α → β → γ) :
    (x.bind fun a => y.bind fun b => some (f a b)) = none ↔ x = none ∨ y = none := by
  cases x <;> cases y <;> simp

mutual

/-- `Value.quoted?` has no text for a value that holds a number of more than `maxDigits` digits, and
for no other. -/
theorem Value.quoted?_eq_none_iff : ∀ v : Value,
    v.quoted? = none ↔ ∃ n ∈ v.integers, 10 ^ Number.maxDigits ≤ n.natAbs
  | .integer n => by
    unfold Value.quoted? Value.integers
    rw [Number.decimal?_eq_none_iff]
    simp
  | .array items => by
    unfold Value.quoted? Value.integers
    rw [Option.map_eq_none_iff]
    -- An array is quoted if its items are.
    exact quotedItems?_eq_none_iff items
  | .table entries => by
    unfold Value.quoted? Value.integers
    rw [Option.map_eq_none_iff]
    -- A table is quoted if what it holds is.
    exact quotedEntries?_eq_none_iff entries
  | .string _ | .float _ | .boolean _ | .dateTime _ _ _ | .date _ | .time _ => by
    unfold Value.quoted? Value.integers
    simp

/-- `quotedItems?` fails for one of the values. -/
theorem quotedItems?_eq_none_iff : ∀ items : List Value,
    quotedItems? items = none ↔ ∃ n ∈ itemIntegers items, 10 ^ Number.maxDigits ≤ n.natAbs
  | [] => by
    unfold quotedItems? itemIntegers
    simp
  | v :: rest => by
    unfold quotedItems? itemIntegers
    refine (bind_map_eq_none_iff _).trans ?_
    rw [v.quoted?_eq_none_iff, quotedItems?_eq_none_iff rest]
    simp only [List.mem_append, or_and_right, exists_or]

/-- `quotedEntries?` fails for one of the values; names can always be quoted. -/
theorem quotedEntries?_eq_none_iff : ∀ entries : List (String × Value),
    quotedEntries? entries = none ↔
      ∃ n ∈ entryIntegers entries, 10 ^ Number.maxDigits ≤ n.natAbs
  | [] => by
    unfold quotedEntries? entryIntegers
    simp
  | (_, v) :: rest => by
    unfold quotedEntries? entryIntegers
    refine (bind_map_eq_none_iff _).trans ?_
    rw [v.quoted?_eq_none_iff, quotedEntries?_eq_none_iff rest]
    simp only [List.mem_append, or_and_right, exists_or]

end

end Toml

/-! ## What is told of a value -/

/-- What comes of a value that an error is to quote. -/
inductive Told (room : Room) (v : Toml.Value) (error : String → ConfigError) : LoadFailure → Prop
  | refused {text : String} (hroom : room.quotes v) (h : v.quoted? = some text) :
      Told room v error (.refused (error text))
  | overlong {n : Int} (hroom : room.quotes v) (hn : n ∈ v.integers)
      (h : 10 ^ Number.maxDigits ≤ n.natAbs) : Told room v error (.broken .overlong)
  | exhausted (h : room.quotes v = false) : Told room v error (.broken .exhausted)

/-- `refusal` is what comes of a value. -/
theorem told_iff {room : Room} {v : Toml.Value} {error : String → ConfigError}
    {failure : LoadFailure} : Told room v error failure ↔ failure = refusal room v error := by
  unfold refusal
  constructor
  · intro h
    cases h with
    | refused hroom h => rw [if_pos hroom, h]
    | overlong hroom hn h =>
      have hnone := v.quoted?_eq_none_iff.mpr ⟨_, hn, h⟩
      rw [if_pos hroom, hnone]
    | exhausted h => rw [if_neg (by simp [h])]
  · rintro rfl
    split
    -- With room for it, the value is quoted unless a number in it is too long.
    next hroom =>
      cases htext : v.quoted? with
      | some text => exact .refused hroom htext
      | none =>
        obtain ⟨n, hn, h⟩ := v.quoted?_eq_none_iff.mp htext
        exact .overlong hroom hn h
    next hroom => exact .exhausted (Bool.eq_false_iff.mpr hroom)

/-- A `refusal` of a whole number quotes it, unless it is too long. -/
theorem refusal_natCast (n : Nat) (error : String → ConfigError) :
    refusal {} (.integer n) error =
      if n < 10 ^ Number.maxDigits then .refused (error (toString (n : Int)))
      else .broken .overlong := by
  have habs : (n : Int).natAbs = n := Int.natAbs_natCast n
  rw [refusal, if_pos rfl, Toml.Value.quoted?]
  by_cases h : n < 10 ^ Number.maxDigits
  · rw [if_pos h, Number.decimal?_of_lt (by rwa [habs])]
  · rw [if_neg h, Number.decimal?_of_le (by rwa [habs, ← Nat.not_lt])]

/-- One thing at most is `Told` of a value. -/
theorem Told.unique {room : Room} {v : Toml.Value} {error : String → ConfigError}
    {e e' : LoadFailure} (h : Told room v error e) (h' : Told room v error e') : e = e' :=
  (told_iff.mp h).trans (told_iff.mp h').symm

/-- There is room to quote a value, and all whole numbers in it have a decimal text. -/
def Quotable (room : Room) (v : Toml.Value) : Prop :=
  room.quotes v ∧ ∀ n ∈ v.integers, n.natAbs < 10 ^ Number.maxDigits

/-- A value that is `Quotable` is refused. -/
theorem Told.exists_refused {room : Room} {v : Toml.Value} {error : String → ConfigError}
    {e : LoadFailure} (h : Told room v error e) (hv : Quotable room v) : ∃ e', e = .refused e' := by
  obtain ⟨hroom, hintegers⟩ := hv
  cases h with
  | refused _ _ => exact ⟨_, rfl⟩
  | overlong _ hn h => exact absurd (hintegers _ hn) (Nat.not_lt.mpr h)
  | exhausted h => exact absurd hroom (by simp [h])

end Reckoner
