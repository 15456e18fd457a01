import Assay.Config.File

/-! Files and directories in memory, found by the paths that arguments write. A
path that leads through a file, or asks for a file as a directory, finds
nothing. -/
namespace Assay.CommandLine

inductive FileTree where
  | file (bytes : ByteArray)
  | directory (entries : List (String × FileTree))

namespace FileTree

/-- The names that a path goes through; empty ones do not count. -/
def steps (path : String) : List String :=
  (path.splitOn "/").filter (· ≠ "")

/-- Puts a tree at the end of a way, making the directories on it. -/
def place (tree : FileTree) : List String → Fields FileTree → Fields FileTree
  | [], entries => entries
  | [name], entries => entries.insert name tree
  | name :: rest, entries =>
    let inner :=
      match entries.get? name with
      | some (.directory inner) => inner
      | _ => []
    entries.insert name (.directory (place tree rest inner))

/-- Where a way ends, given the directories it starts in, innermost first, and
whether the end must be a directory. -/
def follow (asDirectory : Bool) : List String → List (Fields FileTree) → Option FileTree
  | [], here :: _ => some (.directory here)
  | name :: rest, here :: outer =>
    if name = "." then follow asDirectory rest (here :: outer)
    else if name = ".." then follow asDirectory rest (if outer = [] then [here] else outer)
    else
      match here.get? name with
      | some (.directory inner) => follow asDirectory rest (inner :: here :: outer)
      | some (.file bytes) => if rest = [] && !asDirectory then some (.file bytes) else none
      | none => none
  | _, [] => none

/-- What a path finds from a working directory, given with the directories
around it, innermost first. -/
def find? (working : List (Fields FileTree)) (path : String) : Option FileTree :=
  let start := if path.startsWith "/" then working.getLast?.toList else working
  if path = "" then none else follow (path.endsWith "/") (steps path) start

def configFile (working : List (Fields FileTree)) (path : String) : Config.File :=
  match find? working path with
  | none => .missing
  | some (.directory _) => .directory
  | some (.file bytes) => .ofBytes bytes

end FileTree

end Assay.CommandLine
