import TickScript.Script
import TickScript.Json.Reader
import TickScript.FileTree

/-! Scripts from JSON documents. An entry is a list that starts with a command
name, or an object with the name under `action`; lists and objects among the
arguments are nested commands. Entries marked as comments are left out. -/
namespace TickScript

namespace Script

/-- The mark of a comment: the first item of a list, or the action or a key of an object. -/
def commentMark : String := "#"

def actionKey : String := "action"

def argsKey : String := "args"

def guardKey : String := ":IF"

def bindingKey : String := ":VAR"

inductive EntryError
  | notCommand (found : Json.Kind)
  | emptyList
  | nameNotString (found : Json.Kind)
  | keyNotString (key : String) (found : Json.Kind)
  | missingAction
  | argsNotList (found : Json.Kind)
  | nestedComment
  deriving DecidableEq, Repr

def EntryError.message : EntryError → String
  | notCommand found => "expected a list or an object, got " ++ found.name
  | emptyList => "empty command list"
  | nameNotString found => "command name must be a string, got " ++ found.name
  | keyNotString key found => "'" ++ key ++ "' must be a string, got " ++ found.name
  | missingAction => "missing '" ++ actionKey ++ "' key"
  | argsNotList found => "'" ++ argsKey ++ "' must be a list, got " ++ found.name
  | nestedComment => "comment marker inside an expression"

inductive LoadError
  | notAnArray (found : Json.Kind)
  | badEntry (index : Nat) (cause : EntryError)
  | notJson
  | unreadable
  deriving DecidableEq, Repr

def LoadError.message : LoadError → String
  | notAnArray found => "script must be a JSON array of entries, got " ++ found.name
  | badEntry index cause => "entry " ++ toString index ++ ": " ++ cause.message
  | notJson => "failed to parse script JSON"
  | unreadable => "failed to read script"

def isMark : Json → Bool
  | .str s => s == commentMark
  | _ => false

def isComment : Json → Bool
  | .list (head :: _) => isMark head
  | .object fields =>
    (fields.lookup commentMark).isSome || (fields.lookup actionKey).any isMark
  | _ => false

/-- One field of an object entry, read by the role of its key. -/
inductive Field
  | action (found : Json)
  | args (exprs : Except EntryError (List Expr))
  | guard (expr : Except EntryError Expr)
  | binding (found : Json)
  | param (name : String) (expr : Except EntryError Expr)

namespace Field

def action? : Field → Option Json
  | action found => some found
  | _ => none

def args? : Field → Option (Except EntryError (List Expr))
  | args exprs => some exprs
  | _ => none

def guard? : Field → Option (Except EntryError Expr)
  | guard expr => some expr
  | _ => none

def binding? : Field → Option Json
  | binding found => some found
  | _ => none

/-- The named arguments in the order of their fields, up to the first that is no expression. -/
def params : List Field → Except EntryError (List (String × Expr))
  | [] => .ok []
  | param name expr :: rest => do
    let expr ← expr
    let others ← params rest
    .ok ((name, expr) :: others)
  | _ :: rest => params rest

/-- The name of a command, from what stands under its key. -/
def nameOf : Option Json → Except EntryError String
  | some (.str name) => .ok name
  | some other => .error (.keyNotString actionKey other.kind)
  | none => .error .missingAction

def guardOf : Option (Except EntryError Expr) → Except EntryError (Option Expr)
  | some expr => expr.map some
  | none => .ok none

/-- The binding of a command, from what stands under its key. -/
def bindingOf : Option Json → Except EntryError (Option String)
  | none => .ok none
  | some .null => .ok none
  | some (.str name) => .ok (some name)
  | some other => .error (.keyNotString bindingKey other.kind)

/-- The command of an object entry. Faults are looked for in the action, the arguments, the guard,
the binding and the named arguments, in this order. -/
def toCommand (fields : List Field) : Except EntryError Command := do
  let name ← nameOf (fields.findSome? action?)
  let args ← (fields.findSome? args?).getD (.ok [])
  let guard ← guardOf (fields.findSome? guard?)
  let binding ← bindingOf (fields.findSome? binding?)
  let named ← params fields
  .ok (.keyword name args named guard binding)

end Field

/-- The value a number stands for: an integer if it fits 64 bits with a sign, else a float. -/
def literal (n : Int) : Value :=
  match fitInt64? n with
  | some n => .int n
  | none => .float (.ofInt n)

mutual

/-- A document in the place of an argument. -/
def readExpr : Json → Except EntryError Expr
  | .null => .ok (.lit .null)
  | .bool b => .ok (.lit (.bool b))
  | .int n => .ok (.lit (literal n))
  | .float x => .ok (.lit (.float x))
  | .str name => .ok (.name name)
  | .list items =>
    if isComment (.list items) then .error .nestedComment
    else (readList items).map .call
  | .object fields =>
    if isComment (.object fields) then .error .nestedComment
    else (Field.toCommand (readFields fields)).map .call

/-- A command from a list: its name and then its arguments. -/
def readList : List Json → Except EntryError Command
  | [] => .error .emptyList
  | .str name :: rest => (readExprs rest).map (.positional name)
  | other :: _ => .error (.nameNotString other.kind)

def readExprs : List Json → Except EntryError (List Expr)
  | [] => .ok []
  | item :: rest => do
    let expr ← readExpr item
    let others ← readExprs rest
    .ok (expr :: others)

def readFields : List (String × Json) → List Field
  | [] => []
  | (key, value) :: rest =>
    (if key = actionKey then .action value
      else if key = argsKey then .args (readArgs value)
      else if key = guardKey then .guard (readExpr value)
      else if key = bindingKey then .binding value
      else .param key (readExpr value)) :: readFields rest

def readArgs : Json → Except EntryError (List Expr)
  | .list items => readExprs items
  | other => .error (.argsNotList other.kind)

end

/-- A document in the place of a command. -/
def readCommand : Json → Except EntryError Command
  | .list items => readList items
  | .object fields => Field.toCommand (readFields fields)
  | other => .error (.notCommand other.kind)

/-- The commands of entries, the first of which stands at `index`, without comments. -/
def readEntries (index : Nat) : List Json → Except LoadError (List Command)
  | [] => .ok []
  | entry :: rest =>
    if isComment entry then readEntries (index + 1) rest
    else match readCommand entry with
      | .error cause => .error (.badEntry index cause)
      | .ok command => (readEntries (index + 1) rest).map (command :: ·)

/-- The script of a document whose objects have each key once. -/
def ofJson : Json → Except LoadError Script
  | .list entries => (readEntries 0 entries).map Script.mk
  | other => .error (.notAnArray other.kind)

def ofText (text : String) : Except LoadError Script :=
  match Json.read? text with
  | some document => ofJson document.canonical
  | none => .error .notJson

/-- The script of a JSON text of which only the front is read at first: a bad entry there is
reported even if the text goes on after the document. -/
def ofFront (text : String) : Except LoadError Script :=
  match Json.readFront? text.toList with
  | some (document, rest) => do
    let script ← ofJson document.canonical
    if (Json.skipSpace rest).isEmpty then .ok script else .error .notJson
  | none => .error .notJson

/-- The script in a file. A directory can be opened, but there is no document to read in it. -/
def ofFile (tree : FileTree) (path : String) : Except LoadError Script :=
  match tree.entry? path with
  | some (.file text) => ofText text
  | some .directory => .error .notJson
  | none => .error .unreadable

end Script
end TickScript
