import Reckoner.Toml.Value

/-!
# Documents under construction

A document is a list of statements: headers that open a table or a new table of an array, and pairs
of a name and a value.  `Document.add` takes them one by one and refuses a statement that
contradicts those in front of it: a value is never replaced or extended, a table is declared once,
and names with points in a pair do not reach into tables that were declared elsewhere.
-/

namespace Reckoner.Toml

/-- The way to a value through named tables. -/
abbrev Path := List String

/-- A statement of a document. -/
inductive Statement where
  /-- Opens a table: `[a.b]`. -/
  | header (path : Path)
  /-- Opens a new table at the end of an array of tables: `[[a.b]]`. -/
  | arrayHeader (path : Path)
  /-- Sets a value in the open table: `a.b = 1`. -/
  | pair (path : Path) (value : Value)

/-- How a table came about. -/
inductive Origin where
  /-- On the way to another table: it may still be declared. -/
  | passed
  /-- By a pair in the section with this number: other pairs of the section may add to it. -/
  | paired (part : Nat)
  | declared
deriving DecidableEq, Repr

/-- A value of a document under construction. -/
inductive Node where
  | value (v : Value)
  /-- A table that may grow. -/
  | table (origin : Origin) (entries : List (String × Node))
  /-- An array of tables, the last of which may grow. -/
  | tables (complete : List (List (String × Node))) (last : List (String × Node))

/-- Tables under construction, by name. -/
abbrev Nodes := List (String × Node)

namespace Node

/-- Whether `Nodes.addPair` of the section `current` must leave the table alone. -/
def closedTo (current : Nat) : Node → Bool
  | value _ => false
  | table .passed _ => false
  | table (.paired part) _ => part != current
  | table .declared _ => true
  | tables _ _ => true

mutual

/-- The value that has been constructed from a node. -/
def toValue : Node → Value
  | value v => v
  | table _ entries => .table (toEntries entries)
  | tables complete last => .array (toTables complete ++ [.table (toEntries last)])

/-- The entries that have been constructed, each by `toValue`. -/
def toEntries : List (String × Node) → List (String × Value)
  | [] => []
  | (name, node) :: rest => (name, node.toValue) :: toEntries rest

/-- The tables that have been constructed, each by `toEntries`. -/
def toTables : List (List (String × Node)) → List Value
  | [] => []
  | entries :: rest => .table (toEntries entries) :: toTables rest

end

end Node

namespace Nodes

/-- Replaces the node of a name, or adds it at the end; the order of `nodes` is that of the file. -/
def set (nodes : Nodes) (name : String) (node : Node) : Nodes :=
  match nodes with
  | [] => [(name, node)]
  | (other, old) :: rest =>
    if other = name then (name, node) :: rest else (other, old) :: set rest name node

/-- Changes the table at the end of a path of headers; tables on the way are made where they are
missing, and of an array of tables the last is meant. -/
def under (change : Nodes → Option Nodes) (nodes : Nodes) : Path → Option Nodes
  | [] => change nodes
  | name :: path =>
    match nodes.lookup name with
    | none => do
      let entries ← under change [] path
      return nodes.set name (.table .passed entries)
    | some (.table origin entries) => do
      let entries ← under change entries path
      return nodes.set name (.table origin entries)
    | some (.tables complete last) => do
      -- Headers and pairs reach only into the last table of an array.
      let last ← under change last path
      return nodes.set name (.tables complete last)
    | some (.value _) => none

/-- Sets a value at the end of a path of names with points; a table on the way must not be
`closedTo` the section. -/
def addPair (current : Nat) (value : Value) (nodes : Nodes) : Path → Option Nodes
  | [] => none
  | [name] => if (nodes.lookup name).isSome then none else some (nodes.set name (.value value))
  | name :: path =>
    match nodes.lookup name with
    | none => do
      let entries ← addPair current value [] path
      return nodes.set name (.table (.paired current) entries)
    | some (.table origin entries) =>
      if (Node.table origin entries).closedTo current then none
      else do
        let entries ← addPair current value entries path
        -- From here on the table belongs to this section, and its header may no longer come.
        return nodes.set name (.table (.paired current) entries)
    | some (.tables _ _) | some (.value _) => none

/-- Declares a table, which must not be declared yet. -/
def declare (current : Nat) (name : String) (nodes : Nodes) : Option Nodes :=
  match nodes.lookup name with
  | none => some (nodes.set name (.table .declared []))
  | some (.table origin entries) =>
    if (Node.table origin entries).closedTo current then none
    -- What was passed through on the way to other tables stays in it.
    else some (nodes.set name (.table .declared entries))
  | some (.tables _ _) | some (.value _) => none

/-- Adds an empty table to an array of tables. -/
def append (name : String) (nodes : Nodes) : Option Nodes :=
  match nodes.lookup name with
  | none => some (nodes.set name (.tables [] []))
  | some (.tables complete last) => some (nodes.set name (.tables (complete ++ [last]) []))
  | some (.table _ _) | some (.value _) => none

/-- Changes the entry that a path of headers ends in: `under` all names but the last. -/
def atEntry (change : String → Nodes → Option Nodes) (nodes : Nodes) (path : Path) :
    Option Nodes := do
  let name ← path.getLast?
  nodes.under (change name) path.dropLast

end Nodes

/-- A document up to some statement. -/
structure Document where
  nodes : Nodes := []
  openPath : Path := []
  /-- The number of the open section. -/
  part : Nat := 0

namespace Document

/-- The document with one more statement: `Nodes.declare`, `Nodes.append` or `Nodes.addPair` at the
place that it names. -/
def add (d : Document) : Statement → Option Document
  | .header path => do
    let nodes ← d.nodes.atEntry (Nodes.declare (d.part + 1)) path
    return ⟨nodes, path, d.part + 1⟩
  | .arrayHeader path => do
    let nodes ← d.nodes.atEntry Nodes.append path
    return ⟨nodes, path, d.part + 1⟩
  | .pair path value => do
    let nodes ← d.nodes.under (fun nodes => nodes.addPair d.part value path) d.openPath
    return { d with nodes := nodes }

/-- The table that the statements describe, by `Node.toEntries`. -/
def entries (d : Document) : Entries := Node.toEntries d.nodes

end Document

end Reckoner.Toml
