import Reckoner.Command.Run

/-!
# The program

The only part that reads files, reads the standard input and prints.  It follows `Command.plan`; a
session answers each line as soon as it is read.
-/

namespace Reckoner

/-- What the file system has at a path. -/
def lookUp (path : FilePath) : IO Found := do
  let name := path.toString
  try
    return .file (← IO.FS.readBinFile name)
  catch
    | .inappropriateType .. =>
      try
        return if ← (← IO.FS.realPath name).isDir then .directory else .blocked
      catch _ => return .blocked
    | _ => return .missing

/-- Writes the records that are grave enough to the standard error. -/
def writeLog (level : LogLevel) (log : List LogRecord) : IO Unit := do
  for r in log do
    if level.rank ≤ r.level.rank then IO.eprintln r.text

/-- Shows prints. -/
def emit (prints : List Print) : IO Unit := do
  for p in prints do
    IO.print (Text.forTerminal p.text)
  (← IO.getStdout).flush

/-- Prints what a run comes to, and gives its exit code. -/
def finish (level : LogLevel) (e : Command.Exit) : IO UInt32 := do
  writeLog level e.log
  emit e.prints
  if let some u := e.usage then IO.eprintln u.message
  return UInt32.ofNat e.code

/-- Reads and answers lines until a session ends. -/
partial def converse (s : Session) (input : IO.FS.Stream) : IO UInt32 := do
  emit [s.promptPrint]
  let read ← input.getLine
  if read.isEmpty then
    emit [.line .plain ""]
    return 0
  let (next, reply) := s.handle (Text.stripLineEnd read)
  writeLog s.settings.level reply.log
  emit reply.prints
  match reply.outcome with
  | .goOn => converse next input
  | .finish =>
    emit [.line .plain ""]
    return 0
  | .broken _ => return 1

/-- Does what the arguments ask for, where `found` is at the path of the settings. -/
def runJob (found : Found) (args : List String) : IO UInt32 := do
  match Command.plan (fun _ => found) args with
  | .error e => finish .warning e
  | .ok plan =>
    match plan.job with
    | .session settings => converse { settings } (← IO.getStdin)
    | job => finish plan.settings.level (job.run "")

end Reckoner

/-- Runs the program on its arguments. -/
def main (args : List String) : IO UInt32 := do
  let found ← match Reckoner.Command.Call.ofArgs args with
    | .ok (.command globals _ _) => Reckoner.lookUp (Reckoner.Command.Global.settingsPath globals)
    | _ => pure .missing
  Reckoner.runJob found args
