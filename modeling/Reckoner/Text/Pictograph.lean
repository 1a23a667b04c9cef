import Reckoner.Text.Blank
import Reckoner.Text.PictographNames

/-!
# Pictographs by name

A name between two colons stands for a pictograph, whatever the case of its letters; behind the name
`-emoji` or `-text` may ask for one of the two ways to show it.  Anything else between colons stays
as it is (`withPictographs`).
-/

namespace Reckoner.Text

/-- Pairs the words of a list of names and pictographs in turn. -/
def pairs : List String → List (String × String)
  | name :: pictograph :: rest => (name, pictograph) :: pairs rest
  | _ => []

/-- The pictographs by their names, the `pairs` of the words of `pictographList`. -/
def pictographs : List (String × String) :=
  pairs ((pictographList.splitToList fun c => c == ' ' || c == '\n').filter (· != ""))

/-- The small form of a letter that occurs in the names of `pictographs`. -/
def smallForm (c : Char) : Char :=
  if c.isUpper || (0xC0 ≤ c.toNat && c.toNat ≤ 0xDE && c.toNat != 0xD7) then
    Char.ofNat (c.toNat + 32)
  -- The signs for kelvin and angstrom are capital letters too.
  else if c.toNat = 0x212A then 'k'
  else if c.toNat = 0x212B then 'å'
  else c

/-- The ways to show a pictograph, and what asks for each. -/
def presentations : List (List Char × Char) :=
  [("-emoji".toList, '\ufe0f'), ("-text".toList, '\ufe0e')]

/-- A name without its ending from `presentations`, and the character that the ending asks for. -/
def splitPresentation (name : List Char) : List Char × List Char :=
  match presentations.find? fun (ending, _) => ending.isSuffixOf name with
  | some (ending, selector) => (name.take (name.length - ending.length), [selector])
  | none => (name, [])

/-- The pictograph that a text between colons stands for, if `pictographs` has the `smallForm` of
it. -/
def pictograph? (name : List Char) : Option (List Char) :=
  let (name, selector) := splitPresentation name
  (pictographs.lookup (String.ofList (name.map smallForm))).map fun s => s.toList ++ selector

/-- What becomes of a text between colons: its `pictograph?`, or the text with its colons. -/
def betweenColons (name : List Char) : List Char :=
  (pictograph? name).getD (':' :: name ++ [':'])

/-- Replaces names between colons.  `pending` is what stands behind a colon that has not met its
partner, backwards. -/
def replaceNames (pending : Option (List Char)) : List Char → List Char
  | [] =>
    match pending with
    | none => []
    | some name => ':' :: name.reverse
  | c :: rest =>
    match pending with
    | none => if c = ':' then replaceNames (some []) rest else c :: replaceNames none rest
    | some name =>
      if c = ':' then betweenColons name.reverse ++ replaceNames none rest
      -- A name holds no blanks.
      else if isBlank c then ':' :: name.reverse ++ c :: replaceNames none rest
      else replaceNames (some (c :: name)) rest

/-- A text with pictographs in the places of their names: `replaceNames` with no colon `pending`. -/
def withPictographs (cs : List Char) : List Char := replaceNames none cs

end Reckoner.Text
