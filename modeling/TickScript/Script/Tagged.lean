import TickScript.Script
import TickScript.Value.Tagged

/-! Commands and expressions as JSON objects tagged by their form under `type`,
with one field for each part. Reading passes over fields a form does not have,
refuses a part that is there twice, and lets a guard or a binding be absent. A
list of the tag and all parts in order is read as well. -/
namespace TickScript

def optionalString : Option String → Json
  | none => .null
  | some s => .str s

mutual

def Command.toTagged : Command → Json
  | .positional name args =>
    .object [("type", .str "Positional"), ("name", .str name),
      ("args", .list (Expr.toTaggedAll args))]
  | .keyword name args named guard binding =>
    .object [("type", .str "Keyword"), ("name", .str name), ("args", .list (Expr.toTaggedAll args)),
      ("kwargs", .object (Expr.toTaggedNamed named)), ("guard", Expr.toTaggedGuard guard),
      ("binding", optionalString binding)]

def Expr.toTagged : Expr → Json
  | .lit value => .object [("type", .str "Lit"), ("v", value.toTagged)]
  | .name name => .object [("type", .str "Name"), ("name", .str name)]
  | .call command => .object [("type", .str "Call"), ("command", command.toTagged)]

def Expr.toTaggedAll : List Expr → List Json
  | [] => []
  | expr :: rest => expr.toTagged :: Expr.toTaggedAll rest

def Expr.toTaggedNamed : List (String × Expr) → List (String × Json)
  | [] => []
  | (name, expr) :: rest => (name, expr.toTagged) :: Expr.toTaggedNamed rest

def Expr.toTaggedGuard : Option Expr → Json
  | none => .null
  | some expr => expr.toTagged

end

namespace Script

/-- A form by its name, or by its number in `forms` inside a document that is read again. -/
def formOf? (forms : List String) (again : Bool) : Json → Option Nat
  | .str tag => forms.idxOf? tag
  | .int n => if again && 0 ≤ n && n < forms.length then some n.toNat else none
  | _ => none

def commandForms : List String := ["Positional", "Keyword"]

def exprForms : List String := ["Lit", "Name", "Call"]

/-- The content of the part that stands under a key: the first alternative if it is missing, no
answer if it is there twice. -/
def part? {α : Type} (missing : Option α) (key : String) (parts : List (String × α)) : Option α :=
  match parts.filter fun part => part.1 == key with
  | [] => missing
  | [(_, content)] => some content
  | _ => none

/-- A part of a command as each role that its key can have in some form. -/
structure CommandPart where
  text : Option String := none
  optionalText : Option (Option String) := none
  args : Option (List Expr) := none
  named : Option (List (String × Expr)) := none
  guard : Option (Option Expr) := none

/-- A command of a known form from its parts. -/
def commandOfParts? (form : Nat) (parts : List (String × CommandPart)) : Option Command := do
  let name ← (← part? none "name" parts).text
  let args ← (← part? none "args" parts).args
  if form = 0 then some (.positional name args)
  else
    let named ← (← part? none "kwargs" parts).named
    let absent : CommandPart := { guard := some none, optionalText := some none }
    let guard ← (← part? (some absent) "guard" parts).guard
    let binding ← (← part? (some absent) "binding" parts).optionalText
    some (.keyword name args (Table.ofList named).entries guard binding)

/-- A part of an expression as each role that its key can have in some form. -/
structure ExprPart where
  text : Option String := none
  value : Option Value := none
  command : Option Command := none

/-- An expression of a known form from its parts. -/
def exprOfParts? (form : Nat) (parts : List (String × ExprPart)) : Option Expr :=
  match form with
  | 0 => do some (.lit (← (← part? none "v" parts).value))
  | 1 => do some (.name (← (← part? none "name" parts).text))
  | _ => do some (.call (← (← part? none "command" parts).command))

/-- The form under the key `type`, which has to be there once. -/
def formOfFields? (forms : List String) (again : Bool) (fields : List (String × Json)) :
    Option Nat :=
  (part? none "type" fields).bind (formOf? forms again)

def optionalString? : Json → Option (Option String)
  | .null => some none
  | .str s => some (some s)
  | _ => none

mutual

/-- A command from its tagged form; `again` tells that the document was read before. -/
def commandOfTagged? (again : Bool) : Json → Option Command
  | .object fields =>
    (formOfFields? commandForms again fields).bind fun form =>
      commandOfParts? form (commandParts fields)
  | .list [tag, name, args] =>
    if formOf? commandForms again tag = some 0 then do
      some (.positional (← name.str?) (← exprsOfTagged? args))
    else none
  | .list [tag, name, args, named, guard, binding] =>
    if formOf? commandForms again tag = some 1 then do
      let name ← name.str?
      let args ← exprsOfTagged? args
      let named ← namedOfTagged? named
      let guard ← if guard.isNull then some none else (exprOfTagged? true guard).map some
      let binding ← optionalString? binding
      some (.keyword name args (Table.ofList named).entries guard binding)
    else none
  | _ => none

def commandParts : List (String × Json) → List (String × CommandPart)
  | [] => []
  | (key, value) :: rest =>
    (key,
      if key = "name" then { text := value.str? }
      else if key = "args" then { args := exprsOfTagged? value }
      else if key = "kwargs" then { named := namedOfTagged? value }
      else if key = "guard" then
        { guard := if value.isNull then some none else (exprOfTagged? true value).map some }
      else { optionalText := optionalString? value }) :: commandParts rest

def exprsOfTagged? : Json → Option (List Expr)
  | .list items => exprItemsOfTagged? items
  | _ => none

def exprItemsOfTagged? : List Json → Option (List Expr)
  | [] => some []
  | item :: rest =>
    match exprOfTagged? true item, exprItemsOfTagged? rest with
    | some expr, some others => some (expr :: others)
    | _, _ => none

def namedOfTagged? : Json → Option (List (String × Expr))
  | .object fields => namedItemsOfTagged? fields
  | _ => none

def namedItemsOfTagged? : List (String × Json) → Option (List (String × Expr))
  | [] => some []
  | (name, value) :: rest =>
    match exprOfTagged? true value, namedItemsOfTagged? rest with
    | some expr, some others => some ((name, expr) :: others)
    | _, _ => none

def exprOfTagged? (again : Bool) : Json → Option Expr
  | .object fields =>
    (formOfFields? exprForms again fields).bind fun form => exprOfParts? form (exprParts fields)
  | .list [tag, content] =>
    match formOf? exprForms again tag with
    | some 0 => (Value.ofTagged? true content).map .lit
    | some 1 => content.str?.map .name
    | some _ => (commandOfTagged? true content).map .call
    | none => none
  | _ => none

def exprParts : List (String × Json) → List (String × ExprPart)
  | [] => []
  | (key, value) :: rest =>
    (key,
      if key = "v" then { value := Value.ofTagged? true value }
      else if key = "command" then { command := commandOfTagged? true value }
      else { text := value.str? }) :: exprParts rest

end

end Script
end TickScript
