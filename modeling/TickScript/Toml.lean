import TickScript.Binary64

/-! TOML documents as data. -/
namespace TickScript

inductive Toml
  | str (s : String)
  | int (n : Int)
  | float (x : Binary64)
  | bool (b : Bool)
  /-- A date, a time or both, in its normal spelling. -/
  | moment (text : String)
  | array (items : List Toml)
  | table (fields : List (String × Toml))
  deriving Inhabited

namespace Toml

def text? : Toml → Option String
  | .str s => some s
  | _ => none

/-- A table as it grows while a document is read. The kind tells which lines may still add to it. -/
inductive Kind
  /-- Opened by a header of its own. -/
  | opened
  /-- Only named on the way to another table in a header. -/
  | implied
  /-- Made by a key with dots. -/
  | dotted
  deriving DecidableEq, Repr

inductive Node
  | value (v : Toml)
  | table (kind : Kind) (fields : List (String × Node))
  | tables (items : List (List (String × Node)))

mutual

def Node.toToml : Node → Toml
  | .value v => v
  | .table _ fields => .table (Node.toFields fields)
  | .tables items => .array (Node.toTables items)

def Node.toFields : List (String × Node) → List (String × Toml)
  | [] => []
  | (key, node) :: rest => (key, node.toToml) :: Node.toFields rest

def Node.toTables : List (List (String × Node)) → List Toml
  | [] => []
  | fields :: rest => .table (Node.toFields fields) :: Node.toTables rest

end

/-- Replaces the value of a key, or adds the key at the end. -/
def assign {α : Type} (key : String) (value : α) : List (String × α) → List (String × α)
  | [] => [(key, value)]
  | (other, kept) :: rest =>
    if other = key then (key, value) :: rest else (other, kept) :: assign key value rest

/-- A table under construction: its kind and its fields. -/
abbrev Draft := Kind × List (String × Node)

/-- Changes the table at the end of a path of keys; tables missing on the way are made of the given
kind. A dotted key passes only through tables that no header has opened, a header passes through the
last table of a list. -/
def descend (making : Kind) (change : Draft → Option Draft) : List String → Draft → Option Draft
  | [], draft => change draft
  | key :: path, (kind, fields) =>
    match fields.lookup key with
    | none => do
      let (_, inner) ← descend making change path (making, [])
      some (kind, assign key (.table making inner) fields)
    | some (.value _) => none
    | some (.table inner_kind inner) =>
      if making = .dotted ∧ inner_kind = .opened then none
      else do
        let (inner_kind, inner) ← descend making change path (inner_kind, inner)
        some (kind, assign key (.table inner_kind inner) fields)
    | some (.tables items) =>
      match items.reverse with
      | [] => none
      | last :: before => do
        let (_, last) ← descend making change path (.opened, last)
        some (kind, assign key (.tables (last :: before).reverse) fields)

/-- Sets a new key. A key with dots adds only to a table that such keys have made, one without dots
never does. -/
def setKey (viaDots : Bool) (key : String) (value : Toml) : Draft → Option Draft
  | (kind, fields) =>
    if viaDots != (kind == .dotted) || (fields.lookup key).isSome then none
    else some (kind, fields ++ [(key, .value value)])

/-- Sets a key with dots within a table. -/
def setPath (path : List String) (value : Toml) (draft : Draft) : Option Draft :=
  match path.reverse with
  | [] => none
  | key :: above => descend .dotted (setKey (!above.isEmpty) key value) above.reverse draft

/-- Opens a table for a header: a new one, or one that was only implied, which then comes last. -/
def openTable (key : String) : Draft → Option Draft
  | (kind, fields) =>
    match fields.lookup key with
    | none => some (kind, fields ++ [(key, .table .opened [])])
    | some (.table .implied inner) =>
      some (kind, fields.filter (·.1 != key) ++ [(key, .table .opened inner)])
    | some _ => none

/-- Adds a table to the list of tables of a header in double brackets. -/
def addTable (key : String) : Draft → Option Draft
  | (kind, fields) =>
    match fields.lookup key with
    | none => some (kind, assign key (.tables [[]]) fields)
    | some (.tables items) => some (kind, assign key (.tables (items ++ [[]])) fields)
    | some _ => none

def openHeader (list : Bool) (path : List String) (draft : Draft) : Option Draft :=
  match path.reverse with
  | [] => none
  | key :: above =>
    descend .implied (if list then addTable key else openTable key) above.reverse draft

/-- Sets a key in the table of the header before it. -/
def setUnder (header path : List String) (value : Toml) (draft : Draft) : Option Draft :=
  descend .implied (setPath path value) header draft

end Toml
end TickScript
