/-! Files by their paths, as a program started in some directory sees them. -/
namespace TickScript

inductive FileTree.Entry
  | file (text : String)
  | directory
  deriving DecidableEq, Repr

/-- The entries that a program can see, by their paths from the working directory or from the
root. -/
structure FileTree where
  entries : List (String × FileTree.Entry)
  deriving Inhabited

namespace FileTree

def ofFiles (files : List (String × String)) : FileTree :=
  ⟨files.map fun (path, text) => (path, .file text)⟩

/-- The parts of a path; the root is a part of its own. -/
def parts (path : String) : List String :=
  if path.startsWith "/" then "/" :: path.splitOn "/" else path.splitOn "/"

/-- The names that lead from the working directory or the root to the end of a plain path. -/
def trail (path : String) : List String := (parts path).filter fun part => part ∉ ["", "."]

/-- Whether the entry at a plain path is below the end of a trail. -/
def isBelow (names : List String) (path : String) : Bool := names.isPrefixOf (trail path)

/-- The entry at the end of a trail. The root, the working directory and those above it are
directories, and so is everything that has an entry below it. -/
def entryAt? (tree : FileTree) (names : List String) : Option Entry :=
  match tree.entries.find? fun entry => trail entry.1 == names with
  | some (_, entry) => some entry
  | none =>
    if names.all (fun name => name = ".." ∨ name = "/") ∨
        tree.entries.any (fun entry => isBelow names entry.1) then
      some .directory
    else none

/-- One directory up from the end of a trail, whose last name comes first. -/
def parent : List String → List String
  | [] => [".."]
  | ".." :: names => ".." :: ".." :: names
  | "/" :: names => "/" :: names
  | _ :: names => names

/-- Follows the parts of a path from the end of a trail, whose last name comes first. Every part
needs a directory to start from. -/
def follow (tree : FileTree) : List String → List String → Option Entry
  | names, [] => tree.entryAt? names.reverse
  | names, part :: parts =>
    if tree.entryAt? names.reverse = some .directory then
      if part ∈ ["", "."] then follow tree names parts
      else if part = ".." then follow tree (parent names) parts
      else follow tree (part :: names) parts
    else none

/-- The entry at a path, if there is one. -/
def entry? (tree : FileTree) (path : String) : Option Entry :=
  if path.isEmpty then none else tree.follow [] (parts path)

def exists? (tree : FileTree) (path : String) : Bool := (tree.entry? path).isSome

/-- The text of the file at a path. -/
def text? (tree : FileTree) (path : String) : Option String :=
  match tree.entry? path with
  | some (.file text) => some text
  | _ => none

end FileTree
end TickScript
