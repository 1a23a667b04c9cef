/-!
# Lines of a text

Each of the three customary line ends is read as a line feed, and a text is cut behind each of them.
-/

namespace Reckoner.Text

/-- Replaces each carriage return, with the line feed behind it if there is one, by a line feed. -/
def unifyNewlines : List Char → List Char
  | '\r' :: '\n' :: rest => '\n' :: unifyNewlines rest
  | '\r' :: rest => '\n' :: unifyNewlines rest
  | c :: rest => c :: unifyNewlines rest
  | [] => []

/-- The lines of a text, each with its line feed; the last may have none.  A carriage return is no
line end here: `unifyNewlines` comes first. -/
def lines : List Char → List (List Char)
  | [] => []
  | c :: rest =>
    if c = '\n' then [c] :: lines rest
    else
      match lines rest with
      | [] => [[c]]
      | line :: others => (c :: line) :: others

/-- `lines` loses nothing of a text. -/
theorem flatten_lines (cs : List Char) : (lines cs).flatten = cs := by
  induction cs with
  | nil => rfl
  | cons c rest ih =>
    simp only [lines]
    split
    · simp [ih]
    · cases h : lines rest <;> simp_all

end Reckoner.Text
