/-!
# Options of a command line

How a list of arguments divides into options and other arguments.  An option has a long name behind
two dashes and perhaps a letter behind one; several letters may share a dash.  The value of an
option stands in the same argument or is the next one, whatever that looks like.  Behind a lone `--`
there are no options.

`readArgs` gives the options in the order in which they stand, and every argument that is none.
-/

namespace Reckoner.Command

/-- Why arguments are refused. -/
inductive UsageError where
  | unknownOption (name : String)
  /-- An option stands without its value. -/
  | missingValue (name : String)
  /-- An option that takes no value has one. -/
  | unwantedValue (name : String)
  /-- The value of an option makes no sense. -/
  | invalidValue (name value : String)
  | unknownCommand (name : String)
  /-- The text that a command works on is missing. -/
  | missingText
  /-- There is an argument too many. -/
  | extraArgument (argument : String)
deriving DecidableEq, Repr

/-- The wording of the error. -/
def UsageError.message : UsageError → String
  | unknownOption name => "there is no option " ++ name
  | missingValue name => "option " ++ name ++ " needs a value"
  | unwantedValue name => "option " ++ name ++ " takes no value"
  | invalidValue name value => value ++ " is no value for option " ++ name
  | unknownCommand name => "there is no command " ++ name
  | missingText => "the command needs a text to work on"
  | extraArgument argument => "one argument too many: " ++ argument

/-- What an option means. -/
inductive Meaning (α : Type) where
  | alone (a : α)
  | valued (f : String → α)

/-- An option. -/
structure Switch (α : Type) where
  /-- The name behind two dashes. -/
  name : String
  /-- The letter behind one dash, if there is one. -/
  letter : Option Char := none
  meaning : Meaning α

/-- What an argument with options in it says. -/
inductive Reading (α : Type) where
  | complete (options : List α)
  /-- The next argument is the value of its last option, whose name is given. -/
  | awaiting (options : List α) (name : String) (last : String → α)

namespace Reading

variable {α : Type}

/-- A reading with an option in front. -/
def cons (a : α) : Reading α → Reading α
  | complete options => complete (a :: options)
  | awaiting options name last => awaiting (a :: options) name last

end Reading

variable {α : Type}

/-- Reads the letters behind a single dash.  What follows the letter of a `valued` option is the
value. -/
def readLetters (switches : List (Switch α)) : List Char → Except UsageError (Reading α)
  | [] => .ok (.complete [])
  | c :: rest =>
    let name := String.ofList ['-', c]
    match switches.find? fun s => s.letter == some c with
    | none => .error (.unknownOption name)
    | some s =>
      match s.meaning with
      | .alone a => (readLetters switches rest).map (.cons a)
      | .valued f =>
        if rest.isEmpty then .ok (.awaiting [] name f) else .ok (.complete [f (String.ofList rest)])

/-- Reads what stands behind two dashes: the name of one of the `switches`, and perhaps a value
behind an equals sign. -/
def readName (switches : List (Switch α)) (cs : List Char) : Except UsageError (Reading α) :=
  let written := String.ofList (cs.takeWhile (· != '='))
  let value := cs.dropWhile (· != '=')
  let name := "--" ++ written
  match switches.find? fun s => s.name == written with
  | none => .error (.unknownOption name)
  | some s =>
    match s.meaning, value with
    | .alone a, [] => .ok (.complete [a])
    | .alone _, _ :: _ => .error (.unwantedValue name)
    | .valued f, [] => .ok (.awaiting [] name f)
    | .valued f, _ :: cs => .ok (.complete [f (String.ofList cs)])

/-- Reads an argument if it holds options, as one does that starts with a dash and has more:
`readName` behind two dashes, `readLetters` behind one. -/
def readOption? (switches : List (Switch α)) (arg : String) :
    Option (Except UsageError (Reading α)) :=
  match arg.toList with
  | '-' :: '-' :: cs => some (readName switches cs)
  | '-' :: c :: cs => some (readLetters switches (c :: cs))
  | _ => none

/-- Options and other arguments, each in order. -/
structure Arguments (α : Type) where
  options : List α
  others : List String

/-- Arguments with more `options` in front. -/
def Arguments.withOptions (options : List α) (args : Arguments α) : Arguments α :=
  { args with options := options ++ args.options }

/-- Where options may stand. -/
inductive Placement where
  /-- In front of the other arguments. -/
  | leading
  /-- Among them. -/
  | mixed
deriving DecidableEq, Repr

/-- Divides arguments into options, by `readOption?`, and others. -/
def readArgs (placement : Placement) (switches : List (Switch α)) :
    List String → Except UsageError (Arguments α)
  | [] => .ok ⟨[], []⟩
  | arg :: rest =>
    if arg == "--" then .ok ⟨[], rest⟩
    else
      match readOption? switches arg, rest with
      | some (.error e), _ => .error e
      | some (.ok (.complete options)), rest =>
        (readArgs placement switches rest).map (.withOptions options)
      | some (.ok (.awaiting _ name _)), [] => .error (.missingValue name)
      | some (.ok (.awaiting options _ last)), value :: rest =>
        (readArgs placement switches rest).map (.withOptions (options ++ [last value]))
      -- A lone dash and the empty text are arguments like any other.
      | none, rest =>
        match placement with
        | .leading => .ok ⟨[], arg :: rest⟩
        | .mixed => (readArgs placement switches rest).map fun args =>
          { args with others := arg :: args.others }

end Reckoner.Command
