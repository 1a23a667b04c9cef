import Mathlib.Tactic.Ring
import Reckoner.Proofs.Quoting
import Reckoner.Settings.File

/-!
# Long whole numbers in a document

A whole number in decimal notation is read if it has at most `Number.maxDigits` digits.  In another
notation it is read however long it is, but quoted only if it has at most that many decimal digits.

Both are shown for the number that follows an equals sign, and then for a document that sets nothing
but a prompt, which no number is: `documentOf` reads all of a hexadecimal number, and the first
check that it fails has nothing to quote it with.

## Key results

- `readValue_hexadecimal`, `readValue_decimal`: what `readValue` makes of digits
- `documentOf_hexadecimal`, `documentOf_decimal`: what `documentOf` makes of them
-/

namespace Reckoner

namespace Toml

/-! ## Runs of digits -/

/-- `moreDigits` passes over digits to whatever stands behind them. -/
theorem moreDigits_append {isDigit : Char → Bool} {ds : List Char}
    (hds : ∀ c ∈ ds, isDigit c ∧ c ≠ '_') (rest : List Char) :
    moreDigits isDigit (ds ++ rest) =
      (ds ++ (moreDigits isDigit rest).1, (moreDigits isDigit rest).2) := by
  induction ds with
  | nil => rfl
  | cons c ds ih =>
    obtain ⟨⟨hdigit, hne⟩, hds⟩ := List.forall_mem_cons.mp hds
    rw [List.cons_append]
    -- A low line would be passed over with the digit behind it, but there is none.
    have hstep : moreDigits isDigit (c :: (ds ++ rest)) =
        (c :: (moreDigits isDigit (ds ++ rest)).1, (moreDigits isDigit (ds ++ rest)).2) := by
      rw [moreDigits.eq_def]
      split
      next heq =>
        rw [List.cons.injEq] at heq
        exact absurd heq.1 hne
      next heq =>
        obtain ⟨rfl, rfl⟩ := List.cons.inj heq
        rw [if_pos hdigit]
      next heq => cases heq
    rw [hstep, ih hds]
    rfl

/-- `readDigits` reads digits to the end. -/
theorem readDigits_of_forall {isDigit : Char → Bool} {ds : List Char} (hne : ds ≠ [])
    (hds : ∀ c ∈ ds, isDigit c ∧ c ≠ '_') : readDigits isDigit ds = some (ds, []) := by
  cases ds with
  | nil => exact absurd rfl hne
  | cons c ds =>
    obtain ⟨⟨hdigit, _⟩, hds⟩ := List.forall_mem_cons.mp hds
    -- All that is behind the first digit is passed over.
    have hmore := moreDigits_append hds []
    rw [List.append_nil, moreDigits, List.append_nil] at hmore
    rw [readDigits, if_pos hdigit, hmore]

/-- `ofDigits` of decimal digits has no more digits than these. -/
theorem ofDigits_lt {ds : List Char} (hds : ∀ d ∈ ds, d.isDigit) :
    ofDigits 10 ds < 10 ^ ds.length := by
  -- The fold multiplies what it has read, so that the bound is one for any start.
  have hfold : ∀ a, ds.foldl (fun m c => 10 * m + (hexDigit? c).getD 0) a <
      10 ^ ds.length * (a + 1) := by
    induction ds with
    | nil => intro a; simp
    | cons d ds ih =>
      intro a
      obtain ⟨hd, hds⟩ := List.forall_mem_cons.mp hds
      have hdigit : (hexDigit? d).getD 0 ≤ 9 := by
        have hle : d.toNat ≤ '0'.toNat + 9 := (Char.isDigit_iff_toNat.mp hd).2
        rw [hexDigit?, if_pos hd, Option.getD_some]
        omega
      rw [List.foldl_cons, List.length_cons, pow_succ]
      calc ds.foldl (fun m c => 10 * m + (hexDigit? c).getD 0) (10 * a + (hexDigit? d).getD 0)
        _ < 10 ^ ds.length * (10 * a + (hexDigit? d).getD 0 + 1) := ih hds _
        _ ≤ 10 ^ ds.length * (10 * (a + 1)) := Nat.mul_le_mul_left _ (by omega)
        _ = 10 ^ ds.length * 10 * (a + 1) := by ring
  simpa [ofDigits] using hfold 0

/-- `ofDigits` is greatest where all digits are. -/
theorem ofDigits_replicate_f (n : Nat) : ofDigits 16 (List.replicate n 'f') + 1 = 16 ^ n := by
  have hf : (hexDigit? 'f').getD 0 = 15 := by decide
  -- The digits that have been read before stand for `a`.
  have hfold : ∀ a, (List.replicate n 'f').foldl (fun m c => 16 * m + (hexDigit? c).getD 0) a + 1 =
      16 ^ n * (a + 1) := by
    induction n with
    | zero => intro a; simp
    | succ n ih =>
      intro a
      rw [List.replicate_succ, List.foldl_cons, hf, ih]
      ring
  rw [ofDigits, hfold, Nat.zero_add, Nat.mul_one]

/-- Forty hexadecimal digits can hold more than forty-three decimal ones, any number of times. -/
theorem pow_le_ofDigits_replicate {k : Nat} (hk : k ≠ 0) :
    10 ^ (43 * k) ≤ ofDigits 16 (List.replicate (40 * k) 'f') := by
  -- Forty digits hold more than forty-three, and so the `k`th powers compare.
  have hlt : (10 ^ 43) ^ k < (16 ^ 40) ^ k := Nat.pow_lt_pow_left (by decide) hk
  rw [← Nat.pow_mul, ← Nat.pow_mul, ← ofDigits_replicate_f] at hlt
  exact Nat.le_of_lt_succ hlt

/-! ## Values -/

/-- `readDate?` and `readTime` expect two digits in front. -/
theorem readDate?_eq_none_of_twoDigits? {a b : Char} (h : twoDigits? a b = none)
    (rest : List Char) : readDate? (a :: b :: rest) = none ∧ readTime (a :: b :: rest) = none := by
  constructor
  · -- A date has the digits of a year in front.
    have hparts : readDateParts (a :: b :: rest) = none := by
      unfold readDateParts
      split
      next heq =>
        obtain ⟨rfl, rfl, _⟩ : _ ∧ _ ∧ _ := by simpa using heq
        simp [h]
      next => rfl
    rw [readDate?, hparts]
    rfl
  · -- A time has those of an hour.
    unfold readTime
    split
    next heq =>
      obtain ⟨rfl, rfl, _⟩ : _ ∧ _ ∧ _ := by simpa using heq
      simp [h]
    next => rfl

/-- `readValue` reads hexadecimal digits as a whole number, however many there are. -/
theorem readValue_hexadecimal (fuel : Nat) {ds : List Char} (hne : ds ≠ [])
    (hds : ∀ c ∈ ds, (hexDigit? c).isSome ∧ c ≠ '_') :
    readValue (fuel + 1) ('0' :: 'x' :: ds) = .ok (.integer (ofDigits 16 ds), []) := by
  obtain ⟨hdate, htime⟩ :=
    readDate?_eq_none_of_twoDigits? (by decide : twoDigits? '0' 'x' = none) ds
  have hprefixed : readPrefixed? ('0' :: 'x' :: ds) = some (.integer (ofDigits 16 ds), []) := by
    have hdigits := readDigits_of_forall hne hds
    simp [readPrefixed?, hdigits]
  -- The digit in front is no start of a text, an array or a table.
  show readNumberOrDate ('0' :: 'x' :: ds) = _
  rw [readNumberOrDate, hdate, htime, hprefixed]

/-- A character that is no digit is not among digits. -/
theorem notMem_of_isDigit {ds : List Char} (hds : ∀ d ∈ ds, d.isDigit) {c : Char}
    (hc : c.isDigit = false) : c ∉ ds := by
  intro hmem
  rw [hds c hmem] at hc
  cases hc

/-- `readDate?` and `readTime` find no dash or colon among digits. -/
theorem readDate?_eq_none_of_isDigit {ds : List Char} (hds : ∀ d ∈ ds, d.isDigit) :
    readDate? ds = none ∧ readTime ds = none := by
  have hdash : '-' ∉ ds := notMem_of_isDigit hds rfl
  have hcolon : ':' ∉ ds := notMem_of_isDigit hds rfl
  constructor
  · have hparts : readDateParts ds = none := by
      unfold readDateParts
      split
      next => simp at hdash
      next => rfl
    rw [readDate?, hparts]
    rfl
  · unfold readTime
    split
    next => simp at hcolon
    next => rfl

/-- `readDecimal?` reads nothing but digits as a whole number. -/
theorem readDecimal?_of_isDigit {c : Char} {ds : List Char} (hc : c ≠ '0')
    (hds : ∀ d ∈ c :: ds, d.isDigit) :
    readDecimal? (c :: ds) = some ((decimalInteger false (c :: ds)).map fun v => (v, [])) := by
  have hminus : '-' ∉ c :: ds := notMem_of_isDigit hds rfl
  have hplus : '+' ∉ c :: ds := notMem_of_isDigit hds rfl
  -- Digits have no sign in front of them.
  have hsign : readSign (c :: ds) = (false, c :: ds) := by
    unfold readSign
    split
    next heq => simp [heq] at hminus
    next heq => simp [heq] at hplus
    next => rfl
  -- They are read to the end, since nothing among them is a low line.
  have hwhole : readWhole (c :: ds) = some (c :: ds, []) := by
    have hlow : '_' ∉ c :: ds := notMem_of_isDigit hds rfl
    unfold readWhole
    split
    next heq => exact absurd (List.cons.inj heq).1 hc
    next =>
      refine readDigits_of_forall (List.cons_ne_nil _ _) fun d hd => ⟨hds d hd, ?_⟩
      rintro rfl
      exact hlow hd
  simp [readDecimal?, hsign, hwhole, readFraction, readExponent]

/-- `readValue` reads decimal digits as a whole number, if they are no more than
`Number.maxDigits`. -/
theorem readValue_decimal (fuel : Nat) {c : Char} {ds : List Char} (hc : c ≠ '0')
    (hds : ∀ d ∈ c :: ds, d.isDigit) :
    readValue (fuel + 1) (c :: ds) = (decimalInteger false (c :: ds)).map fun v => (v, []) := by
  obtain ⟨hdate, htime⟩ := readDate?_eq_none_of_isDigit hds
  -- There is no zero in front that a letter for another base might follow.
  have hprefixed : readPrefixed? (c :: ds) = none := by
    unfold readPrefixed?
    split
    next heq => exact absurd (List.cons.inj heq).1 hc
    next => rfl
  have hnumber : readNumberOrDate (c :: ds) =
      (decimalInteger false (c :: ds)).map fun v => (v, []) := by
    rw [readNumberOrDate, hdate, htime, hprefixed, readDecimal?_of_isDigit hc hds]
    rfl
  rw [← hnumber]
  have hdigit : c.isDigit := hds c List.mem_cons_self
  -- A digit starts no text, array, table or truth value.
  unfold readValue
  have htext : readText? (c :: ds) = none := by
    unfold readText?
    split <;> first | rfl | (next heq => obtain ⟨rfl, _⟩ := List.cons.inj heq; cases hdigit)
  rw [htext]
  simp only
  split <;> first | rfl | (next heq => obtain ⟨rfl, _⟩ := List.cons.inj heq; cases hdigit)

end Toml

/-! ## Documents -/

/-- `unifyNewlines` leaves a text alone that has no carriage return. -/
theorem Text.unifyNewlines_of_notMem {cs : List Char} (h : '\r' ∉ cs) : unifyNewlines cs = cs := by
  induction cs with
  | nil => rfl
  | cons c cs ih =>
    obtain ⟨hc, hcs⟩ := not_or.mp (mt List.mem_cons.mpr h)
    unfold unifyNewlines
    split
    next heq => exact absurd (List.cons.inj heq).1.symm hc
    next heq => exact absurd (List.cons.inj heq).1.symm hc
    next heq =>
      obtain ⟨rfl, rfl⟩ := List.cons.inj heq
      rw [ih hcs]
    next heq => cases heq

namespace Settings

open Toml (Value Fault readValue)

/-- The text of a document that sets a prompt to the given value. -/
def promptText (cs : List Char) : String := "[repl]\nprompt = " ++ String.ofList cs

/-- The line that sets a prompt. -/
def promptLine (cs : List Char) : List Char :=
  'p' :: 'r' :: 'o' :: 'm' :: 'p' :: 't' :: ' ' :: '=' :: ' ' :: cs

/-- A `promptText` has two lines. -/
theorem toList_promptText (cs : List Char) :
    (promptText cs).toList = '[' :: 'r' :: 'e' :: 'p' :: 'l' :: ']' :: '\n' :: promptLine cs := by
  simp [promptText, promptLine]

/-- `readStatement` reads the header of a section up to the end of its line. -/
theorem readStatement_header (fuel : Nat) (rest : List Char) :
    Toml.readStatement fuel ('[' :: 'r' :: 'e' :: 'p' :: 'l' :: ']' :: '\n' :: rest) =
      .ok (.header ["repl"], '\n' :: rest) :=
  rfl

/-- `readStatement` reads a pair where there is no bracket. -/
theorem readStatement_of_ne (fuel : Nat) {c : Char} (hc : c ≠ '[') (cs : List Char) :
    Toml.readStatement fuel (c :: cs) =
      (Toml.readPair fuel (c :: cs)).map fun ((path, v), rest) => (.pair path v, rest) := by
  unfold Toml.readStatement
  split
  next heq => exact absurd (List.cons.inj heq).1 hc
  next heq => exact absurd (List.cons.inj heq).1 hc
  next => cases Toml.readPair fuel (c :: cs) <;> rfl

/-- `readPair` reads a prompt as `readValue` reads its value. -/
theorem readPair_promptLine (fuel : Nat) {c : Char} (hc : Toml.isBlank c = false)
    (cs : List Char) :
    Toml.readPair (fuel + 2) (promptLine (c :: cs)) =
      (readValue (fuel + 1) (c :: cs)).map fun (v, rest) => ((["prompt"], v), rest) := by
  -- The name ends at the equals sign, behind which blanks are passed over.
  have hname : Toml.readName (promptLine (c :: cs)).length (promptLine (c :: cs)) =
      some (["prompt"], '=' :: ' ' :: c :: cs) := rfl
  have hdrop : (' ' :: c :: cs).dropWhile Toml.isBlank = c :: cs := by
    rw [List.dropWhile_cons_of_pos (by decide), List.dropWhile_cons_of_neg (by simp [hc])]
  rw [Toml.readPair, hname]
  simp only [Toml.orMalformed, bind, Except.bind, hdrop]
  cases readValue (fuel + 1) (c :: cs) <;> rfl

/-- `readStatements` adds the statement at the start of a line, and reads on behind it. -/
theorem readStatements_cons (fuel : Nat) (d : Toml.Document) {c : Char} (cs : List Char)
    (hc : Toml.isBlank c = false ∧ c ≠ '\n' ∧ c ≠ '#') :
    Toml.readStatements (fuel + 1) d (c :: cs) =
      (Toml.readStatement (3 * fuel) (c :: cs)).bind fun (statement, rest) =>
        (Toml.orMalformed (d.add statement)).bind fun d =>
          Toml.readStatements.afterStatement fuel d rest := by
  obtain ⟨hblank, hnewline, hhash⟩ := hc
  have hdrop : (c :: cs).dropWhile Toml.isBlank = c :: cs :=
    List.dropWhile_cons_of_neg (by simp [hblank])
  -- The line is neither empty nor a comment.
  rw [Toml.readStatements, hdrop]
  split
  next heq => cases heq
  next heq => exact absurd (List.cons.inj heq).1 hnewline
  next heq => exact absurd (List.cons.inj heq).1 hhash
  next => rfl

/-- The document in which the prompt is to be set. -/
def openRepl : Toml.Document := ⟨[("repl", .table .declared [])], ["repl"], 1⟩

/-- `readStatements` opens a section. -/
theorem readStatements_header (fuel : Nat) (cs : List Char) :
    Toml.readStatements (fuel + 2) {} ('[' :: 'r' :: 'e' :: 'p' :: 'l' :: ']' :: '\n' :: cs) =
      Toml.readStatements (fuel + 1) openRepl cs := by
  -- The header declares the table that the pairs behind it go into.
  have hadd : Toml.Document.add {} (.header ["repl"]) = some openRepl := rfl
  have hend : ('\n' :: cs).dropWhile Toml.isBlank = '\n' :: cs := rfl
  rw [readStatements_cons _ _ _ (by decide), readStatement_header]
  simp only [Except.bind, hadd, Toml.orMalformed]
  rw [Toml.readStatements.afterStatement, hend]
  rfl

/-- `readStatements` reads a prompt as `readValue` reads its value. -/
theorem readStatements_promptLine (fuel : Nat) {c : Char} {cs : List Char}
    (hc : Toml.isBlank c = false) {r : Except Fault Value}
    (h : ∀ fuel, readValue (fuel + 1) (c :: cs) = r.map fun v => (v, [])) :
    Toml.readStatements (fuel + 2) openRepl (promptLine (c :: cs)) =
      r.map fun v => ⟨[("repl", .table .declared [("prompt", .value v)])], ["repl"], 1⟩ := by
  -- Fuel is left in plenty, whatever the value.
  have hstatement : Toml.readStatement (3 * (fuel + 1)) (promptLine (c :: cs)) =
      r.map fun v => (.pair ["prompt"] v, []) := by
    have hpair := readPair_promptLine (3 * fuel + 1) hc cs
    rw [h] at hpair
    rw [promptLine, readStatement_of_ne _ (by decide), ← promptLine]
    rw [show 3 * (fuel + 1) = 3 * fuel + 1 + 2 from by ring, hpair]
    cases r <;> rfl
  rw [promptLine, readStatements_cons _ _ _ (by decide), ← promptLine, hstatement]
  cases r with
  | error fault => rfl
  | ok v =>
    -- The pair goes into the table that was declared last.
    have hadd : openRepl.add (.pair ["prompt"] v) =
        some ⟨[("repl", .table .declared [("prompt", .value v)])], ["repl"], 1⟩ := rfl
    simp only [Except.map, Except.bind, hadd, Toml.orMalformed]
    rw [Toml.readStatements.afterStatement]
    rfl

/-- `documentOf` reads a prompt as `readValue` reads its value. -/
theorem documentOf_promptText {c : Char} {cs : List Char} (hcr : '\r' ∉ c :: cs)
    (hc : Toml.isBlank c = false) {r : Except Fault Value}
    (h : ∀ fuel, readValue (fuel + 1) (c :: cs) = r.map fun v => (v, [])) :
    documentOf (promptText (c :: cs)) = r.map fun v => [("repl", .table [("prompt", v)])] := by
  have hunified : '\r' ∉ (promptText (c :: cs)).toList := by
    simpa [toList_promptText, promptLine] using hcr
  -- Each statement costs a unit of fuel, and there is one for each character.
  have hfuel : (promptText (c :: cs)).toList.length + 1 = cs.length + 16 + 2 := by
    simp [toList_promptText, promptLine]
  have hstatements : Toml.readStatements ((promptText (c :: cs)).toList.length + 1) {}
      (promptText (c :: cs)).toList =
        r.map fun v => ⟨[("repl", .table .declared [("prompt", .value v)])], ["repl"], 1⟩ := by
    rw [hfuel, toList_promptText, readStatements_header, readStatements_promptLine _ hc h]
  rw [documentOf, Text.unifyNewlines_of_notMem hunified, Toml.read, String.toList_ofList]
  simp only [hstatements]
  cases r <;> rfl

/-- `documentOf` reads a hexadecimal prompt, however many digits it has. -/
theorem documentOf_hexadecimal {ds : List Char} (hne : ds ≠ [])
    (hds : ∀ c ∈ ds, (Toml.hexDigit? c).isSome ∧ c ≠ '_') :
    documentOf (promptText ('0' :: 'x' :: ds)) =
      .ok [("repl", .table [("prompt", .integer (Toml.ofDigits 16 ds))])] := by
  -- A carriage return is no hexadecimal digit.
  have hcr : '\r' ∉ '0' :: 'x' :: ds := by
    intro hmem
    have hr : '\r' ∈ ds := by simpa using hmem
    cases (hds _ hr).1
  exact documentOf_promptText (r := .ok _) hcr rfl fun fuel =>
    Toml.readValue_hexadecimal fuel hne hds

/-- `documentOf` reads a decimal prompt if it has at most `Number.maxDigits` digits. -/
theorem documentOf_decimal {c : Char} {ds : List Char} (hc : c ≠ '0')
    (hds : ∀ d ∈ c :: ds, d.isDigit) :
    documentOf (promptText (c :: ds)) =
      (Toml.decimalInteger false (c :: ds)).map fun v => [("repl", .table [("prompt", v)])] := by
  -- A digit is no blank.
  have hblank : Toml.isBlank c = false := by
    have hdigit := hds c List.mem_cons_self
    rw [Toml.isBlank, Bool.or_eq_false_iff, beq_eq_false_iff_ne, beq_eq_false_iff_ne]
    constructor <;> (rintro rfl; cases hdigit)
  exact documentOf_promptText (Toml.notMem_of_isDigit hds rfl) hblank
    fun fuel => Toml.readValue_decimal fuel hc hds

end Settings

end Reckoner
