import Mathlib.Data.List.DropRight
import Mathlib.Data.List.TakeWhile
import Reckoner.Proofs.ScanExact
import Reckoner.Text.Blank

/-!
# Blanks around a line

What stripping takes from a line.  The characters that may stand between tokens and those that end a
line are blank; there are other blank characters besides.

## Key results

- `strip_stripLineEnd`: a line end makes no difference to the text without blanks around it
- `strip_eq_empty_iff`: nothing is left of a line if all of it is blank
- `strip_eq_empty_of_scan_eq_nil`: a line without tokens is blank
-/

namespace Reckoner.Text

variable {p q : Char → Bool} {cs : List Char}

/-- `dropLastWhile` is the `rdropWhile` of the library. -/
theorem dropLastWhile_eq_rdropWhile (p : Char → Bool) (cs : List Char) :
    dropLastWhile p cs = cs.rdropWhile p := rfl

/-- `dropLastWhile` drops all of what stands at the end, if it drops each of its characters. -/
theorem dropLastWhile_append_of_forall {ds : List Char} (h : ∀ c ∈ ds, p c) :
    dropLastWhile p (cs ++ ds) = dropLastWhile p cs := by
  rw [dropLastWhile, List.reverse_append,
    List.dropWhile_append_of_pos fun c hc => h c (List.mem_reverse.mp hc)]
  rfl

/-- Dropping fewer characters from the end first makes no difference to `dropLastWhile`. -/
theorem dropLastWhile_dropWhile_dropLastWhile (hpq : ∀ c, q c → p c) :
    dropLastWhile p ((dropLastWhile q cs).dropWhile p) = dropLastWhile p (cs.dropWhile p) := by
  have hp : ∀ c ∈ cs.rtakeWhile q, p c := fun c hc => hpq c (List.mem_rtakeWhile_imp hc)
  -- On the right the list is put together from what the first step keeps and what it drops.
  conv_rhs => rw [← List.rdropWhile_append_rtakeWhile (p := q) (l := cs), List.dropWhile_append]
  rw [dropLastWhile_eq_rdropWhile q]
  split
  next hempty =>
    -- All characters are dropped from the front.
    rw [List.isEmpty_iff.mp hempty, List.dropWhile_eq_nil_iff.mpr hp]
  next => rw [dropLastWhile_append_of_forall hp]

/-- `isBlank` holds of the characters that end a line. -/
theorem isBlank_of_lineEnd {c : Char} (h : c = '\n' ∨ c = '\r') : isBlank c := by
  rcases h with rfl | rfl <;> decide

/-- `stripLineEnd` makes no difference to what `strip` leaves. -/
theorem strip_stripLineEnd (s : String) : strip (stripLineEnd s) = strip s := by
  rw [strip, stripLineEnd, String.toList_ofList,
    dropLastWhile_dropWhile_dropLastWhile fun c hc => isBlank_of_lineEnd (by simpa using hc)]
  rfl

/-- `strip` leaves nothing of a text if all of it is blank, and only then. -/
theorem strip_eq_empty_iff (s : String) : strip s = "" ↔ ∀ c ∈ s.toList, isBlank c := by
  have hempty : ∀ cs : List Char, String.ofList cs = "" ↔ cs = [] := by
    intro cs
    rw [← String.toList_inj, String.toList_ofList]
    rfl
  rw [strip, hempty, dropLastWhile_eq_rdropWhile, List.rdropWhile_eq_nil_iff]
  constructor
  · intro h c hc
    -- A character is among the blanks in front, or in what is dropped from the end.
    rw [← List.takeWhile_append_dropWhile (p := isBlank) (l := s.toList)] at hc
    rcases List.mem_append.mp hc with hc | hc
    · exact List.mem_takeWhile_imp hc
    · exact h c hc
  · exact fun h c hc => h c ((List.dropWhile_sublist isBlank).mem hc)

/-! ## What is stripped -/

/-- The blanks that `strip` takes from the front of a text. -/
def leading (s : String) : List Char := s.toList.takeWhile isBlank

/-- The blanks that `strip` takes from the end of a text.  If all of it is blank, they count as
being in front. -/
def trailing (s : String) : List Char := (s.toList.dropWhile isBlank).rtakeWhile isBlank

/-- `leading` characters are blank. -/
theorem isBlank_of_mem_leading {s : String} {c : Char} (h : c ∈ leading s) : isBlank c :=
  List.mem_takeWhile_imp h

/-- `trailing` characters are blank. -/
theorem isBlank_of_mem_trailing {s : String} {c : Char} (h : c ∈ trailing s) : isBlank c :=
  List.mem_rtakeWhile_imp h

/-- A text is what `strip` leaves of it between what is `leading` and `trailing`. -/
theorem toList_eq_append (s : String) :
    s.toList = leading s ++ (strip s).toList ++ trailing s := by
  rw [leading, trailing, strip, String.toList_ofList, dropLastWhile_eq_rdropWhile,
    List.append_assoc, List.rdropWhile_append_rtakeWhile, List.takeWhile_append_dropWhile]

/-! ## Blanks and tokens -/

/-- The `Token.blanks`, which may stand between tokens, are blank. -/
theorem isBlank_of_mem_blanks {c : Char} (h : c ∈ Token.blanks) : isBlank c := by
  simp only [Token.blanks, List.mem_cons, List.not_mem_nil, or_false] at h
  rcases h with rfl | rfl | rfl | rfl <;> rfl

/-- A blank character of a line that `Token.scan` accepts is one of the `Token.blanks`: it is no
part of a token. -/
theorem mem_blanks_of_isBlank {c : Char} (hblank : isBlank c)
    (h : Token.isNumeral c ∨ c ∈ Token.blanks ∨ c ∈ Token.signs) : c ∈ Token.blanks := by
  rcases h with hnumeral | hc | hsign
  · -- Digits and the point lie between the separators and the next blank.
    exfalso
    have hrange : c.toNat = 46 ∨ 48 ≤ c.toNat ∧ c.toNat ≤ 57 := by
      rcases (Bool.or_eq_true _ _).mp hnumeral with hdigit | hpoint
      · simp only [Char.isDigit, Bool.and_eq_true, decide_eq_true_eq] at hdigit
        exact Or.inr ⟨hdigit.1, hdigit.2⟩
      · rw [beq_iff_eq.mp hpoint]
        exact Or.inl rfl
    simp only [isBlank, inRanges, blankRanges, List.any_cons, List.any_nil, Bool.or_eq_true,
      Bool.and_eq_true, decide_eq_true_eq, Bool.false_eq_true, or_false] at hblank
    omega
  · exact hc
  · exfalso
    simp only [Token.signs, List.mem_cons, List.not_mem_nil, or_false] at hsign
    rcases hsign with rfl | rfl | rfl | rfl <;> cases hblank

/-- `Token.scan` fails for a blank character that may not stand between tokens. -/
theorem exists_scan_error_of_isBlank {line : String} {c : Char} (hc : c ∈ line.toList)
    (hblank : isBlank c) (hforeign : c ∉ Token.blanks) : ∃ e, Token.scan line = .error e := by
  cases h : Token.scan line with
  | error e => exact ⟨e, rfl⟩
  | ok tokens =>
    exact absurd (mem_blanks_of_isBlank hblank (Token.mem_alphabet_of_scan h hc)) hforeign

/-- `strip` leaves nothing of a line in which `Token.scan` finds no tokens. -/
theorem strip_eq_empty_of_scan_eq_nil {line : String} (h : Token.scan line = .ok []) :
    strip line = "" := by
  rw [strip_eq_empty_iff]
  intro c hc
  obtain ⟨i, hi⟩ := List.getElem?_of_mem hc
  -- Whatever no token covers is one of the blanks between tokens.
  exact isBlank_of_mem_blanks ((Token.laid_of_scan h).blank i c hi nofun)

end Reckoner.Text
