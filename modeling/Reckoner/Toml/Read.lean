import Reckoner.Toml.Document
import Reckoner.Toml.Scalar

/-!
# Reading a settings file

`Toml.read` reads a document, or tells what is wrong with it: of several faults the first one in the
document counts.  Values nest, so their readers count down from a number that exceeds the length of
the document; each of their calls takes at least one character after at most two others.  How deep
values may nest is not limited here.
-/

namespace Reckoner.Toml

/-- Drops a comment up to the end of its line; a control character in it is an error. -/
def skipComment (cs : List Char) : Option (List Char) :=
  match cs with
  | '#' :: rest =>
    if (rest.takeWhile (· != '\n')).any isControl then none else some (rest.dropWhile (· != '\n'))
  | _ => some cs

/-- Drops blanks, line ends and comments, each of these by `skipComment`. -/
def skipLines : Nat → List Char → Option (List Char)
  | 0, cs => some cs
  | fuel + 1, cs => do
    let cs := cs.dropWhile isBlankOrNewline
    match cs with
    | '#' :: _ => skipLines fuel (← skipComment cs)
    | _ => some cs

mutual

/-- Reads a value: what begins no text, truth value, array or table is left to `readNumberOrDate`.
-/
def readValue : Nat → ValueReader Value
  | 0, _ => .error .malformed
  | fuel + 1, cs =>
    match readText? cs with
    | some read => orMalformed (read.map fun (s, rest) => (.string s, rest))
    | none =>
      match cs with
      | 't' :: 'r' :: 'u' :: 'e' :: rest => .ok (.boolean true, rest)
      | 'f' :: 'a' :: 'l' :: 's' :: 'e' :: rest => .ok (.boolean false, rest)
      | '[' :: rest => do
        let (items, rest) ← readItems fuel rest
        return (.array items, rest)
      | '\x7b' :: rest =>
        match rest.dropWhile isBlank with
        | '\x7d' :: rest => .ok (.table [], rest)
        | rest => do
          let (nodes, rest) ← readPairs fuel [] rest
          return (.table (Node.toEntries nodes), rest)
      | cs => readNumberOrDate cs

/-- Reads the items of an array, each by `readValue`, up to its closing bracket. -/
def readItems : Nat → ValueReader (List Value)
  | 0, _ => .error .malformed
  | fuel + 1, cs => do
    -- The closing bracket may follow a comma.
    match ← orMalformed (skipLines cs.length cs) with
    | ']' :: rest => return ([], rest)
    | cs => do
      let (item, rest) ← readValue fuel cs
      match ← orMalformed (skipLines rest.length rest) with
      | ']' :: rest => return ([item], rest)
      | ',' :: rest => do
        let (items, rest) ← readItems fuel rest
        return (item :: items, rest)
      | _ => throw .malformed

/-- Reads the pairs of an inline table up to its closing brace, behind those that have been read, by
`readPair` and `Nodes.addPair`. -/
def readPairs : Nat → Nodes → ValueReader Nodes
  | 0, _, _ => .error .malformed
  | fuel + 1, nodes, cs => do
    let ((path, value), rest) ← readPair fuel cs
    let nodes ← orMalformed (nodes.addPair 0 value path)
    match rest.dropWhile isBlank with
    | '\x7d' :: rest => return (nodes, rest)
    -- Here another pair has to follow a comma, and line ends may not stand around it.
    | ',' :: rest => readPairs fuel nodes (rest.dropWhile isBlank)
    | _ => throw .malformed

/-- Reads a name, an equals sign and a value: `readName`, and `readValue` behind the sign. -/
def readPair : Nat → ValueReader (Path × Value)
  | 0, _ => .error .malformed
  | fuel + 1, cs => do
    match ← orMalformed (readName cs.length cs) with
    | (path, '=' :: rest) => do
      let (value, rest) ← readValue fuel (rest.dropWhile isBlank)
      return ((path, value), rest)
    | _ => throw .malformed

end

/-- Reads a statement: a header in single or double brackets, or what `readPair` reads. -/
def readStatement (fuel : Nat) : ValueReader Statement
  | '[' :: '[' :: rest => do
    let rest := rest.dropWhile isBlank
    match ← orMalformed (readName rest.length rest) with
    | (path, ']' :: ']' :: rest) => return (.arrayHeader path, rest)
    | _ => throw .malformed
  | '[' :: rest => do
    let rest := rest.dropWhile isBlank
    match ← orMalformed (readName rest.length rest) with
    | (path, ']' :: rest) => return (.header path, rest)
    | _ => throw .malformed
  | cs => do
    let ((path, value), rest) ← readPair fuel cs
    return (.pair path value, rest)

/-- Reads the statements of a document, at most one to a line, behind those that have been read.
Each is put in with `Document.add` before anything behind it is read. -/
def readStatements : Nat → Document → List Char → Except Fault Document
  | 0, _, _ => .error .malformed
  | fuel + 1, d, cs => do
    match cs.dropWhile isBlank with
    | [] => return d
    | '\n' :: rest => readStatements fuel d rest
    | '#' :: rest => afterStatement fuel d ('#' :: rest)
    | cs => do
      -- An inline table calls three readers for each of its pairs.
      let (statement, rest) ← readStatement (3 * fuel) cs
      let d ← orMalformed (d.add statement)
      afterStatement fuel d rest
where
  /-- Reads on at the end of a line, where only blanks and a comment may stand. -/
  afterStatement (fuel : Nat) (d : Document) (cs : List Char) : Except Fault Document := do
    match ← orMalformed (skipComment (cs.dropWhile isBlank)) with
    | [] => return d
    | '\n' :: rest => readStatements fuel d rest
    | _ => throw .malformed

/-- The table that a document describes, or its first fault, by `readStatements`. -/
def read (document : String) : Except Fault Entries := do
  let cs := document.toList
  let d ← readStatements (cs.length + 1) {} cs
  return d.entries

end Reckoner.Toml
