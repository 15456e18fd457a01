import Assay.Fields
import Assay.Toml.Basic

/-! Tables under construction. A table may be opened by a header, implied by the
path of a header, or made by dotted keys; what may still be added to it depends
on that. Headers extend tables of every origin but open each only once; dotted
keys extend the tables that dotted keys made. -/
namespace Assay.Toml

inductive Origin where
  | header
  | implied
  | dotted
deriving DecidableEq

inductive Node where
  | value (v : Toml)
  | table (origin : Origin) (entries : List (String × Node))
  /-- An array of tables, the earlier ones and the one that is open. -/
  | tables (before : List (List (String × Node))) (last : List (String × Node))

abbrev Entries : Type := Fields Node

namespace Entries

/-- Puts the node under its key, keys in ascending order. -/
def put : Entries → String → Node → Entries
  | [], name, node => [(name, node)]
  | (key, old) :: rest, name, node =>
    if key = name then (key, node) :: rest
    else if name < key then (name, node) :: (key, old) :: rest
    else (key, old) :: put rest name node

/-- Changes the table at the end of a path, implying the tables on the way. -/
def descend (change : Entries → Option Entries) : List String → Entries → Option Entries
  | [], entries => change entries
  | key :: path, entries =>
    match Fields.get? entries key with
    | none => (descend change path []).map fun inner => put entries key (.table .implied inner)
    | some (.table origin inner) =>
      (descend change path inner).map fun inner => put entries key (.table origin inner)
    | some (.tables before last) =>
      (descend change path last).map fun last => put entries key (.tables before last)
    | some (.value _) => none

/-- Opens the table `key`, which no header has opened before. -/
def openTable (key : String) (entries : Entries) : Option Entries :=
  match Fields.get? entries key with
  | none => some (put entries key (.table .header []))
  | some (.table .implied inner) => some (put entries key (.table .header inner))
  | _ => none

/-- Appends an open table to the array of tables `key`. -/
def openElement (key : String) (entries : Entries) : Option Entries :=
  match Fields.get? entries key with
  | none => some (put entries key (.tables [] []))
  | some (.tables before last) => some (put entries key (.tables (before ++ [last]) []))
  | _ => none

/-- Gives the dotted key a value that it does not have yet. -/
def assign (v : Toml) : List String → Entries → Option Entries
  | [], _ => none
  | [key], entries =>
    match Fields.get? entries key with
    | none => some (put entries key (.value v))
    | some _ => none
  | key :: next :: path, entries =>
    match Fields.get? entries key with
    | none => (assign v (next :: path) []).map fun inner => put entries key (.table .dotted inner)
    | some (.table .dotted inner) =>
      (assign v (next :: path) inner).map fun inner => put entries key (.table .dotted inner)
    | some (.table .implied inner) =>
      if path = [] then none
      else (assign v (next :: path) inner).map fun inner => put entries key (.table .implied inner)
    | some (.tables before last) =>
      if path = [] then none
      else (assign v (next :: path) last).map fun last => put entries key (.tables before last)
    | _ => none

end Entries

mutual

/-- The finished value of a node. -/
def Node.toToml : Node → Toml
  | .value v => v
  | .table _ entries => .table (finishEntries entries)
  | .tables before last => .array (finishElements before ++ [.table (finishEntries last)])

def finishEntries : List (String × Node) → List (String × Toml)
  | [] => []
  | (key, node) :: rest => (key, node.toToml) :: finishEntries rest

def finishElements : List (List (String × Node)) → List Toml
  | [] => []
  | entries :: rest => .table (finishEntries entries) :: finishElements rest

end

end Assay.Toml
