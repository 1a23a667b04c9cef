import Reckoner.FileTree
import Reckoner.Settings.Basic
import Reckoner.Text.Lines
import Reckoner.Toml.Read

/-!
# Settings files

A settings file is a TOML document in UTF-8; any of the three customary line ends will do.
`Settings.load` reads it in four stages: the path has to be one that a file can have, the bytes of
the file a text (`Text.unifyNewlines`), the text a document (`Toml.read`), and the document has to
pass the checks of its values (`Settings.ofDocument`).
-/

namespace Reckoner

/-- Settings together with the file that they were read from. -/
structure LoadedSettings where
  settings : Settings := {}
  /-- The path of the file, if there was one. -/
  path : Option FilePath := none

namespace Settings

/-- The name of the file that `loadIfPresent` is for, where no other is given. -/
def fileName : String := "calcline.toml"

/-- The document in a text, with any line ends: `Toml.read` behind `Text.unifyNewlines`. -/
def documentOf (text : String) : Except Toml.Fault Toml.Entries :=
  Toml.read (String.ofList (Text.unifyNewlines text.toList))

/-- The settings in the text of a file: `ofDocument` of its `documentOf`, if there is room to read
it. -/
def ofText (room : Room) (path : FilePath) (text : String) : Except LoadFailure Settings :=
  if room.reads text then
    match documentOf text with
    | .ok document => ofDocument room document
    | .error .malformed => .error (.refused (.malformed path.toString))
    | .error .overlong => .error (.broken .overlong)
  else .error (.broken .exhausted)

/-- The settings in what was found at a path: `ofText` of a file in UTF-8; anything but a file is
`unreadable`. -/
def ofFound (room : Room) (path : FilePath) : Found → Except LoadFailure Settings
  | .file bytes =>
    match String.fromUTF8? bytes with
    | some text => ofText room path text
    | none => .error (.broken .undecodable)
  | .directory => .error (.refused (.unreadable path.toString .directory))
  | .missing => .error (.refused (.unreadable path.toString .missing))
  | .blocked => .error (.refused (.unreadable path.toString .blocked))

/-- The settings in the file at a path, whatever is said to be found at a path that no file has
(`FilePath.holdsNull`). -/
def load (path : FilePath) (found : Found) (room : Room := {}) :
    Except LoadFailure LoadedSettings := do
  if path.holdsNull then throw (.broken .nullInPath)
  let settings ← ofFound room path found
  return { settings, path := some path }

/-- The settings in the file at a path by `load` if there is a file, and otherwise the defaults. -/
def loadIfPresent (path : FilePath) (found : Found) (room : Room := {}) :
    Except LoadFailure LoadedSettings :=
  match found with
  | .file _ => if path.holdsNull then .ok {} else load path found room
  | _ => .ok {}

end Settings

end Reckoner
