import Reckoner.Log
import Reckoner.Toml.Value

/-!
# What can be wrong with settings

The causes for which a settings file or a level name is refused, and their wording (`ConfigError`).
A refusal quotes the value that it is about.  Where a value cannot be quoted, or the file cannot be
read as a text or a document at all, there is no refusal: the loading breaks off (`Obstacle`).
-/

namespace Reckoner

/-- Why a file cannot be read. -/
inductive ReadFailure where
  | missing
  /-- There is a directory in its place. -/
  | directory
  /-- A file stands in the middle of its path. -/
  | blocked
deriving DecidableEq, Repr

/-- The wording of a reason, as `ConfigError.unreadable` tells it. -/
def ReadFailure.message : ReadFailure → String
  | missing => "No such file or directory"
  | directory => "Is a directory"
  | blocked => "Not a directory"

/-- Why settings are refused.  Values of the document are given as messages quote them. -/
inductive ConfigError where
  /-- The file cannot be read. -/
  | unreadable (path : String) (reason : ReadFailure)
  /-- The file is no well-formed document. -/
  | malformed (path : String)
  /-- A section is no table. -/
  | notTable (table quoted : String)
  | invalidValue (table key quoted : String)
  | negativePrecision (quoted : String)
  | unknownLevel (level : String)
  | described (message : String)

/-- The wording of the error. -/
def ConfigError.message : ConfigError → String
  | unreadable path reason => "cannot read " ++ path ++ ": " ++ reason.message
  | malformed path => path ++ ": invalid TOML"
  | notTable name quoted => "[" ++ name ++ "] must be a table, got " ++ quoted
  | invalidValue name key quoted => "[" ++ name ++ "] " ++ key ++ " has invalid value " ++ quoted
  | negativePrecision quoted => "[output] precision must not be negative, got " ++ quoted
  | unknownLevel level =>
    "log level must be one of " ++ ", ".intercalate (LogLevel.all.map LogLevel.name) ++ ", got " ++
      Text.quoted level
  | described message => message

/-- What breaks off the loading of settings without a refusal. -/
inductive Obstacle where
  /-- The path holds a null character, which no name of a file has. -/
  | nullInPath
  /-- The bytes of the file are not UTF-8. -/
  | undecodable
  /-- A whole number has more than `Number.maxDigits` digits: it cannot be read in decimal notation,
  or, read in another one, cannot be quoted. -/
  | overlong
  /-- There is no room to read the document, or to quote a value of it. -/
  | exhausted
deriving DecidableEq, Repr

/-- Why settings cannot be loaded. -/
inductive LoadFailure where
  /-- The file or what it says is refused. -/
  | refused (e : ConfigError)
  | broken (o : Obstacle)

/-- What there is room for while settings are loaded.  Values that nest deeply need much of it; how
much there is depends on what else goes on, so that it is not counted here but given. -/
structure Room where
  /-- Whether a text can be read as a document, well formed or not. -/
  reads : String → Bool := fun _ => true
  /-- Whether a value can be quoted. -/
  quotes : Toml.Value → Bool := fun _ => true

/-- The failure for a value: it is refused with an error that quotes it, if there is room and
`Toml.Value.quoted?` has a text for it. -/
def refusal (room : Room) (value : Toml.Value) (error : String → ConfigError) : LoadFailure :=
  if room.quotes value then
    match value.quoted? with
    | some text => .refused (error text)
    | none => .broken .overlong
  else .broken .exhausted

end Reckoner
