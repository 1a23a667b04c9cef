import Reckoner.Number.Text
import Reckoner.Number.Whole
import Reckoner.Text.Quoted

/-!
# Values of a settings file

What a TOML document holds, and how messages quote it (`Value.quoted?`): text between quotes,
numbers with the digits that identify them, tables in the order of the file, dates and times by
their parts.  A whole number without a decimal text (`Number.decimal?`) cannot be quoted, nor can
what holds it.
-/

namespace Reckoner.Toml

/-! ## Dates and times -/

/-- A day of the calendar. -/
structure Date where
  /-- The year. -/
  year : Nat
  /-- The month, from 1. -/
  month : Nat
  /-- The day of the month, from 1. -/
  day : Nat
deriving DecidableEq, Repr

/-- A time of day. -/
structure Time where
  /-- Hours. -/
  hour : Nat
  /-- Minutes. -/
  minute : Nat
  /-- Seconds. -/
  second : Nat
  /-- Millionths of a second. -/
  micro : Nat
deriving DecidableEq, Repr

/-- The number of days of a month, 29 for `month = 2` of a leap year. -/
def daysOf (year month : Nat) : Nat :=
  if month = 2 then
    if year % 4 = 0 ∧ (year % 100 ≠ 0 ∨ year % 400 = 0) then 29 else 28
  else if month ∈ [4, 6, 9, 11] then 30
  else 31

/-- The date with the given parts, if there is such a day after the year 0; a month has as many days
as `daysOf` says. -/
def Date.ofParts? (year month day : Nat) : Option Date :=
  if 1 ≤ year ∧ 1 ≤ month ∧ month ≤ 12 ∧ 1 ≤ day ∧ day ≤ daysOf year month then
    some ⟨year, month, day⟩
  else none

/-! ## Values -/

/-- A value of a document. -/
inductive Value where
  /-- Text. -/
  | string (s : String)
  /-- A whole number of any size. -/
  | integer (n : Int)
  /-- A double. -/
  | float (x : Float)
  /-- A truth value. -/
  | boolean (b : Bool)
  /-- A date and a time of day, with its distance from universal time in minutes if given. -/
  | dateTime (date : Date) (time : Time) (offset : Option Int)
  /-- A date. -/
  | date (date : Date)
  /-- A time of day. -/
  | time (time : Time)
  /-- Values in order. -/
  | array (items : List Value)
  /-- Values by name, in the order of the file. -/
  | table (entries : List (String × Value))

/-- The entries of a table, in the order of the file. -/
abbrev Entries := List (String × Value)

/-- The value of a name, by `List.lookup`. -/
def Entries.get? (entries : Entries) (name : String) : Option Value := entries.lookup name

/-! ## How messages quote a value -/

/-- Quoted numbers keep a `.0`, and zero its sign. -/
def quotedNumber : Number.Notation where
  pointZero := true
  signedZero := true

/-- Numbers between parentheses behind a name. -/
def callText (name : String) (parts : List String) : String :=
  name ++ "(" ++ ", ".intercalate parts ++ ")"

/-- The parts of a date. -/
def Date.parts (d : Date) : List String := [toString d.year, toString d.month, toString d.day]

/-- The parts of a time: seconds and millionths are left out where all that is left is zero. -/
def Time.parts (t : Time) : List String :=
  [toString t.hour, toString t.minute] ++
    (if t.micro ≠ 0 then [toString t.second, toString t.micro]
    else if t.second ≠ 0 then [toString t.second] else [])

/-- A distance from universal time in minutes, as `Value.quoted?` writes it behind a time. -/
def offsetText (minutes : Int) : String :=
  let delta (parts : List String) :=
    callText "datetime.timezone" [callText "datetime.timedelta" parts]
  if minutes = 0 then "datetime.timezone.utc"
  else if 0 < minutes then delta ["seconds=" ++ toString (60 * minutes)]
  else delta ["days=-1", "seconds=" ++ toString (86400 + 60 * minutes)]

mutual

/-- A value as messages quote it, if all whole numbers in it have a decimal text.  How deep values
may nest is not limited here. -/
def Value.quoted? : Value → Option String
  | .string s => some (Text.quoted s)
  | .integer n => Number.decimal? n
  | .float x => some (Number.write quotedNumber x)
  | .boolean b => some (if b then "True" else "False")
  | .dateTime date time offset =>
    some (callText "datetime.datetime" (date.parts ++ time.parts ++
      (offset.toList.map fun minutes => "tzinfo=" ++ offsetText minutes)))
  | .date date => some (callText "datetime.date" date.parts)
  | .time time => some (callText "datetime.time" time.parts)
  | .array items =>
    (quotedItems? items).map fun texts => "[" ++ ", ".intercalate texts ++ "]"
  | .table entries =>
    (quotedEntries? entries).map fun texts => "\x7b" ++ ", ".intercalate texts ++ "\x7d"

/-- Each of several values by `Value.quoted?`, if all can be quoted. -/
def quotedItems? : List Value → Option (List String)
  | [] => some []
  | v :: rest => do
    let text ← v.quoted?
    let texts ← quotedItems? rest
    return text :: texts

/-- Each entry of a table as messages quote it, if `Value.quoted?` has a text for every value. -/
def quotedEntries? : List (String × Value) → Option (List String)
  | [] => some []
  | (name, v) :: rest => do
    let text ← v.quoted?
    let texts ← quotedEntries? rest
    return (Text.quoted name ++ ": " ++ text) :: texts

end

end Reckoner.Toml
