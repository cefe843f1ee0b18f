import TickScript.Json.Printer
import TickScript.Proofs.Reordering
import TickScript.Script.Tagged

/-! Tagged forms read again: what is written as JSON text and read from it is the command or the
expression that was written, as long as every float in it is a finite number. -/
namespace TickScript

namespace Table

variable {α : Type}

theorem write_perm {name : String} (value : α) {entries : List (String × α)}
    (fresh : name ∉ entries.map Prod.fst) :
    (write name value entries).Perm ((name, value) :: entries) := by
  induction entries with
  | nil => exact .refl _
  | cons entry rest ih =>
    obtain ⟨other, kept⟩ := entry
    obtain ⟨different, later⟩ := List.ne_and_not_mem_of_not_mem_cons fresh
    unfold write
    by_cases less : name < other
    · rw [if_pos less]
    · rw [if_neg less, if_neg different]
      exact ((ih later).cons _).trans (.swap ..)

/-- Entries under new names, each a different one, are added to those that were there. -/
theorem insertAll_entries {table : Table α} {entries : List (String × α)}
    (keys : ((table.entries ++ entries).map Prod.fst).Nodup) :
    (table.entries ++ entries).Perm (table.insertAll entries).entries := by
  induction entries generalizing table with
  | nil =>
    rw [List.append_nil]
    exact .refl _
  | cons entry rest ih =>
    have moved : (table.entries ++ entry :: rest).Perm (entry :: (table.entries ++ rest)) :=
      List.perm_middle
    have fresh : entry.1 ∉ table.entries.map Prod.fst := by
      have apart := (moved.map Prod.fst).nodup_iff.mp keys
      rw [List.map_cons, List.nodup_cons, List.map_append] at apart
      intro there
      exact apart.1 (List.mem_append_left _ there)
    have onwards : (table.entries ++ entry :: rest).Perm
        ((table.insert entry.1 entry.2).entries ++ rest) :=
      moved.trans ((write_perm entry.2 fresh).symm.append_right rest)
    exact onwards.trans (ih ((onwards.map Prod.fst).nodup_iff.mp keys))

/-- Entries under different names are all kept. -/
theorem ofList_perm {entries : List (String × α)} (keys : (entries.map Prod.fst).Nodup) :
    entries.Perm (ofList entries).entries := by
  have empty_keys : (((empty : Table α).entries ++ entries).map Prod.fst).Nodup := keys
  exact insertAll_entries empty_keys

end Table

section Transport

mutual

/-- What text keeps of a document: everything but floats that are no finite numbers, in whose place
it has null. -/
def Json.carried : Json → Json
  | .float x => if x.isFinite then .float x else .null
  | .list items => .list (Json.carriedItems items)
  | .object fields => .object (Json.carriedFields fields)
  | other => other

def Json.carriedItems : List Json → List Json
  | [] => []
  | item :: rest => item.carried :: Json.carriedItems rest

def Json.carriedFields : List (String × Json) → List (String × Json)
  | [] => []
  | (key, value) :: rest => (key, value.carried) :: Json.carriedFields rest

end

mutual

/-- What text does not keep does not show in it. -/
theorem Json.render_carried : ∀ document : Json, document.carried.render = document.render
  | .float x => by
    unfold Json.carried
    by_cases finite : x.isFinite = true
    · rw [if_pos finite]
    · rw [if_neg finite]
      simp only [Json.render, Json.floatText, if_neg finite]
  | .list items => by simp only [Json.carried, Json.render, Json.renderItems_carried items]
  | .object fields => by simp only [Json.carried, Json.render, Json.renderFields_carried fields]
  | .null | .bool _ | .int _ | .str _ => rfl

theorem Json.renderItems_carried : ∀ items : List Json,
    Json.renderItems (Json.carriedItems items) = Json.renderItems items
  | [] => rfl
  | item :: rest => by
    simp only [Json.carriedItems, Json.renderItems, Json.render_carried item,
      Json.renderItems_carried rest]

theorem Json.renderFields_carried : ∀ fields : List (String × Json),
    Json.renderFields (Json.carriedFields fields) = Json.renderFields fields
  | [] => rfl
  | (key, value) :: rest => by
    simp only [Json.carriedFields, Json.renderFields, Json.render_carried value,
      Json.renderFields_carried rest]

end

end Transport

namespace Value

mutual

def isFinite : Value → Bool
  | .float x => x.isFinite
  | .list items => areFinite items
  | _ => true

def areFinite : List Value → Bool
  | [] => true
  | item :: rest => item.isFinite && areFinite rest

end

/-- A kind with a content is read as what is left of the content allows. -/
theorem reread_pair (again : Bool) (tag : String) {kind : Kind}
    (known : Kind.tags.lookup tag = some kind) (content : Json) :
    ofTagged? again (Json.object [("t", .str tag), ("v", content)]).carried =
      ofContents? (contents again content.carried) kind := by
  have field : Kind.ofField? again (.str tag) = some kind := known
  simp [Json.carried, Json.carriedFields, ofTagged?, ofTaggedFields?, field]

mutual

theorem reread (again : Bool) : ∀ value : Value,
    ofTagged? again value.toTagged.carried = if value.isFinite then some value else none
  | .null => rfl
  | .bool b => by
    rw [toTagged, reread_pair again "Bool" rfl]
    rfl
  | .int n => by
    rw [toTagged, reread_pair again "Int" rfl]
    show (fitInt64? n.toInt).map Value.int = _
    rw [fitInt64_toInt]
    rfl
  | .float x => by
    rw [toTagged, reread_pair again "Float" rfl, Json.carried, isFinite]
    by_cases finite : x.isFinite = true
    · rw [if_pos finite, if_pos finite]
      rfl
    · rw [if_neg finite, if_neg finite]
      rfl
  | .str s => by
    rw [toTagged, reread_pair again "Str" rfl]
    rfl
  | .list items => by
    rw [toTagged, reread_pair again "List" rfl, Json.carried, contents, ofContents?,
      rereadItems again items, isFinite]
    cases areFinite items
    · rfl
    · rfl

theorem rereadItems (again : Bool) : ∀ items : List Value,
    ofTaggedItems? again (Json.carriedItems (toTaggedItems items)) =
      if areFinite items then some items else none
  | [] => rfl
  | item :: rest => by
    have first := reread again item
    have others := rereadItems again rest
    simp only [toTaggedItems, Json.carriedItems, ofTaggedItems?, first, others, areFinite]
    by_cases finite : item.isFinite = true
    · by_cases all : areFinite rest = true
      · simp [finite, all]
      · simp [all]
    · simp [finite]

end

end Value

section Forms

def Expr.isPlain : Expr → Bool
  | .lit value => value.isFinite
  | _ => true

def Expr.isFinite (expr : Expr) : Bool := expr.within.all Expr.isPlain

def Command.isFinite (command : Command) : Bool := command.exprs.all Expr.isPlain

mutual

/-- A command with its named arguments in increasing order, also in what is nested in it. -/
def Command.sorted : Command → Command
  | .positional name args => .positional name (Expr.sortedAll args)
  | .keyword name args named guard binding =>
    .keyword name (Expr.sortedAll args) (Table.ofList (Expr.sortedNamed named)).entries
      (Expr.sortedGuard guard) binding

def Expr.sorted : Expr → Expr
  | .lit value => .lit value
  | .name name => .name name
  | .call command => .call command.sorted

def Expr.sortedAll : List Expr → List Expr
  | [] => []
  | expr :: rest => expr.sorted :: Expr.sortedAll rest

def Expr.sortedNamed : List (String × Expr) → List (String × Expr)
  | [] => []
  | (name, expr) :: rest => (name, expr.sorted) :: Expr.sortedNamed rest

def Expr.sortedGuard : Option Expr → Option Expr
  | none => none
  | some expr => some expr.sorted

end

namespace Script

/-- What is read in the place of a guard, where null stands for none. -/
def guardOfTagged? (document : Json) : Option (Option Expr) :=
  if document.isNull then some none else (exprOfTagged? true document).map some

theorem commandOfTagged_positional (again : Bool) (name : String) (items : List Json) :
    commandOfTagged? again (.object [("type", .str "Positional"), ("name", .str name),
        ("args", .list items)]) =
      (exprItemsOfTagged? items).bind fun args => some (.positional name args) := by
  have form : commandForms.idxOf? "Positional" = some 0 := rfl
  simp [commandOfTagged?, formOfFields?, part?, formOf?, form, commandParts, commandOfParts?,
    exprsOfTagged?, Json.str?]

theorem commandOfTagged_keyword (again : Bool) (name : String) (items : List Json)
    (fields : List (String × Json)) (guard binding : Json) :
    commandOfTagged? again (.object [("type", .str "Keyword"), ("name", .str name),
        ("args", .list items), ("kwargs", .object fields), ("guard", guard),
        ("binding", binding)]) = (do
      let args ← exprItemsOfTagged? items
      let named ← namedItemsOfTagged? fields
      let guard ← guardOfTagged? guard
      let binding ← optionalString? binding
      some (.keyword name args (Table.ofList named).entries guard binding)) := by
  have form : commandForms.idxOf? "Keyword" = some 1 := rfl
  simp [commandOfTagged?, formOfFields?, part?, formOf?, form, commandParts, commandOfParts?,
    exprsOfTagged?, namedOfTagged?, Json.str?, guardOfTagged?]

theorem exprOfTagged_lit (again : Bool) (content : Json) :
    exprOfTagged? again (.object [("type", .str "Lit"), ("v", content)]) =
      (Value.ofTagged? true content).bind fun value => some (.lit value) := by
  have form : exprForms.idxOf? "Lit" = some 0 := rfl
  simp [exprOfTagged?, formOfFields?, part?, formOf?, form, exprParts, exprOfParts?]

theorem exprOfTagged_name (again : Bool) (name : String) :
    exprOfTagged? again (.object [("type", .str "Name"), ("name", .str name)]) =
      some (.name name) := by
  have form : exprForms.idxOf? "Name" = some 1 := rfl
  simp [exprOfTagged?, formOfFields?, part?, formOf?, form, exprParts, exprOfParts?, Json.str?]

theorem exprOfTagged_call (again : Bool) (content : Json) :
    exprOfTagged? again (.object [("type", .str "Call"), ("command", content)]) =
      (commandOfTagged? true content).bind fun command => some (.call command) := by
  have form : exprForms.idxOf? "Call" = some 2 := rfl
  simp [exprOfTagged?, formOfFields?, part?, formOf?, form, exprParts, exprOfParts?]

theorem reread_binding (binding : Option String) :
    optionalString? (optionalString binding).carried = some binding := by
  cases binding with
  | none => rfl
  | some name => rfl

theorem carried_tagged_isNull (expr : Expr) : expr.toTagged.carried.isNull = false := by
  cases expr <;> rfl

mutual

theorem reread_command (again : Bool) : ∀ command : Command,
    commandOfTagged? again command.toTagged.carried =
      if command.isFinite then some command.sorted else none
  | .positional name args => by
    have read := commandOfTagged_positional again name (Json.carriedItems (Expr.toTaggedAll args))
    rw [reread_all args] at read
    refine read.trans ?_
    rw [Command.isFinite, Command.exprs, Command.sorted]
    split_ifs
    · rfl
    · rfl
  | .keyword name args named guard binding => by
    have read := commandOfTagged_keyword again name (Json.carriedItems (Expr.toTaggedAll args))
      (Json.carriedFields (Expr.toTaggedNamed named)) (Expr.toTaggedGuard guard).carried
      (optionalString binding).carried
    rw [reread_all args, reread_named named, reread_guard guard, reread_binding binding] at read
    refine read.trans ?_
    rw [Command.isFinite, Command.exprs, List.all_append, List.all_append, Command.sorted]
    cases (Expr.withinGuard guard).all Expr.isPlain <;>
      cases (Expr.withinAll args).all Expr.isPlain <;>
      cases (Expr.withinNamed named).all Expr.isPlain <;> rfl

theorem reread_expr (again : Bool) : ∀ expr : Expr,
    exprOfTagged? again expr.toTagged.carried = if expr.isFinite then some expr.sorted else none
  | .lit value => by
    have read := exprOfTagged_lit again value.toTagged.carried
    rw [Value.reread true value] at read
    refine read.trans ?_
    rw [Expr.isFinite, Expr.within, List.all_cons, List.all_nil, Bool.and_true, Expr.isPlain]
    split_ifs
    · rfl
    · rfl
  | .name name => exprOfTagged_name again name
  | .call command => by
    have read := exprOfTagged_call again command.toTagged.carried
    rw [reread_command true command] at read
    refine read.trans ?_
    have same : (Expr.call command).isFinite = command.isFinite := by
      simp only [Expr.isFinite, Expr.within, List.all_cons, Expr.isPlain, Bool.true_and,
        Command.isFinite]
    rw [same]
    split_ifs
    · rfl
    · rfl

theorem reread_all : ∀ exprs : List Expr,
    exprItemsOfTagged? (Json.carriedItems (Expr.toTaggedAll exprs)) =
      if (Expr.withinAll exprs).all Expr.isPlain then some (Expr.sortedAll exprs) else none
  | [] => rfl
  | expr :: rest => by
    rw [Expr.toTaggedAll, Json.carriedItems, exprItemsOfTagged?, reread_expr true expr,
      reread_all rest, Expr.withinAll, List.all_append, Expr.sortedAll, Expr.isFinite]
    cases expr.within.all Expr.isPlain <;>
      cases (Expr.withinAll rest).all Expr.isPlain <;> rfl

theorem reread_named : ∀ named : List (String × Expr),
    namedItemsOfTagged? (Json.carriedFields (Expr.toTaggedNamed named)) =
      if (Expr.withinNamed named).all Expr.isPlain then some (Expr.sortedNamed named) else none
  | [] => rfl
  | (name, expr) :: rest => by
    rw [Expr.toTaggedNamed, Json.carriedFields, namedItemsOfTagged?, reread_expr true expr,
      reread_named rest, Expr.withinNamed, List.all_append, Expr.sortedNamed, Expr.isFinite]
    cases expr.within.all Expr.isPlain <;>
      cases (Expr.withinNamed rest).all Expr.isPlain <;> rfl

theorem reread_guard : ∀ guard : Option Expr,
    guardOfTagged? (Expr.toTaggedGuard guard).carried =
      if (Expr.withinGuard guard).all Expr.isPlain then some (Expr.sortedGuard guard) else none
  | none => rfl
  | some expr => by
    rw [guardOfTagged?, Expr.toTaggedGuard, carried_tagged_isNull, reread_expr true expr,
      Expr.withinGuard, Expr.sortedGuard, Expr.isFinite]
    cases expr.within.all Expr.isPlain <;> rfl

end

end Script

end Forms

section Order

def Command.Keyed (command : Command) : Prop := (command.named.map Prod.fst).Nodup

def Expr.Distinct (expr : Expr) : Prop := Setting.Includes Command.Keyed expr.within

def Command.Distinct (command : Command) : Prop := (Expr.call command).Distinct

namespace Expr.ReorderedNamed

theorem write {name : String} {expr other : Expr} (reordered : expr.Reordered other)
    {named others : List (String × Expr)} (all : ReorderedNamed named others) :
    ReorderedNamed (Table.write name expr named) (Table.write name other others) := by
  induction named generalizing others with
  | nil =>
    cases all
    exact .cons reordered .nil
  | cons entry rest ih =>
    obtain ⟨key, kept⟩ := entry
    cases all with
    | cons first following =>
      unfold Table.write
      by_cases less : name < key
      · rw [if_pos less, if_pos less]
        exact .cons reordered (.cons first following)
      · rw [if_neg less, if_neg less]
        by_cases same : name = key
        · rw [if_pos same, if_pos same]
          exact .cons reordered following
        · rw [if_neg same, if_neg same]
          exact .cons first (ih following)

theorem insertAll {named others : List (String × Expr)} (all : ReorderedNamed named others)
    {table left : Table Expr} (before : ReorderedNamed table.entries left.entries) :
    ReorderedNamed (table.insertAll named).entries (left.insertAll others).entries := by
  induction named generalizing others table left with
  | nil =>
    cases all
    exact before
  | cons entry rest ih =>
    obtain ⟨name, expr⟩ := entry
    cases all with
    | cons first following =>
      have written : ReorderedNamed (table.insert name expr).entries (left.insert name _).entries :=
        before.write first
      exact ih following written

theorem ofList {named others : List (String × Expr)} (all : ReorderedNamed named others) :
    ReorderedNamed (Table.ofList named).entries (Table.ofList others).entries := by
  have before : ReorderedNamed (Table.empty : Table Expr).entries Table.empty.entries := .nil
  exact all.insertAll before

end Expr.ReorderedNamed

mutual

/-- A command in increasing order of names is the command in another order. -/
theorem Command.reordered_sorted : ∀ command : Command, command.Distinct →
    command.Reordered command.sorted
  | .positional name args, distinct => by
    have inside : Setting.Includes Command.Keyed (Expr.withinAll args) :=
      fun nested member => distinct nested (List.mem_cons_of_mem _ member)
    exact .positional (Expr.reordered_sortedAll args inside)
  | .keyword name args named guard binding, distinct => by
    have keys : (named.map Prod.fst).Nodup := distinct _ List.mem_cons_self
    have inside : Setting.Includes Command.Keyed
        (Expr.withinGuard guard ++ (Expr.withinAll args ++ Expr.withinNamed named)) :=
      fun nested member => distinct nested (List.mem_cons_of_mem _ member)
    obtain ⟨inGuard, inArgs⟩ := inside.append
    obtain ⟨inArgs, inNamed⟩ := inArgs.append
    have within := (Expr.reordered_sortedNamed named inNamed).ofList
    exact .keyword (Expr.reordered_sortedGuard guard inGuard)
      (Expr.reordered_sortedAll args inArgs) (Table.ofList_perm keys) within

theorem Expr.reordered_sorted : ∀ expr : Expr, expr.Distinct → expr.Reordered expr.sorted
  | .lit value, _ => .lit value
  | .name text, _ => .name text
  | .call command, distinct => .call (Command.reordered_sorted command distinct)

theorem Expr.reordered_sortedAll : ∀ exprs : List Expr,
    Setting.Includes Command.Keyed (Expr.withinAll exprs) →
      Expr.ReorderedAll exprs (Expr.sortedAll exprs)
  | [], _ => .nil
  | expr :: rest, includes =>
    .cons (Expr.reordered_sorted expr includes.append.1)
      (Expr.reordered_sortedAll rest includes.append.2)

theorem Expr.reordered_sortedNamed : ∀ named : List (String × Expr),
    Setting.Includes Command.Keyed (Expr.withinNamed named) →
      Expr.ReorderedNamed named (Expr.sortedNamed named)
  | [], _ => .nil
  | (_, expr) :: rest, includes =>
    .cons (Expr.reordered_sorted expr includes.append.1)
      (Expr.reordered_sortedNamed rest includes.append.2)

theorem Expr.reordered_sortedGuard : ∀ guard : Option Expr,
    Setting.Includes Command.Keyed (Expr.withinGuard guard) →
      Expr.ReorderedGuard guard (Expr.sortedGuard guard)
  | none, _ => .none
  | some expr, includes => .some (Expr.reordered_sorted expr includes)

end

end Order

namespace Script

/-- Commands and expressions come back from their tagged form as they were, but for the order of
named arguments, if all their floats are finite numbers. With any other float they are not read at
all. -/
theorem tagged_reread (again : Bool) :
    (∀ command : Command, command.Distinct →
      if command.isFinite then
        ∃ back, commandOfTagged? again command.toTagged.carried = some back ∧
          command.Reordered back
      else commandOfTagged? again command.toTagged.carried = none) ∧
    ∀ expr : Expr, expr.Distinct →
      if expr.isFinite then
        ∃ back, exprOfTagged? again expr.toTagged.carried = some back ∧ expr.Reordered back
      else exprOfTagged? again expr.toTagged.carried = none := by
  constructor
  · intro command distinct
    have read := reread_command again command
    by_cases finite : command.isFinite = true
    · rw [if_pos finite] at read ⊢
      exact ⟨command.sorted, read, command.reordered_sorted distinct⟩
    · rw [if_neg finite] at read ⊢
      exact read
  · intro expr distinct
    have read := reread_expr again expr
    by_cases finite : expr.isFinite = true
    · rw [if_pos finite] at read ⊢
      exact ⟨expr.sorted, read, expr.reordered_sorted distinct⟩
    · rw [if_neg finite] at read ⊢
      exact read

def waitOrLog : Command :=
  .keyword "wait" [.lit (.list [.int 0, .float (.zero false), .null])]
    [("until", .call (.keyword "log" [.name "$x"] [] none (some "y"))), ("for", .lit (.int 2))]
    (some (.name "ready")) none

theorem tagged_reread_waitOrLog :
    waitOrLog.Distinct ∧ ∃ back,
      commandOfTagged? false waitOrLog.toTagged.carried = some back ∧ waitOrLog.Reordered back := by
  have distinct : waitOrLog.Distinct := by
    intro nested member
    simp only [waitOrLog, Expr.within, Command.exprs, Expr.withinGuard, Expr.withinAll,
      Expr.withinNamed, List.append_nil, List.nil_append, List.cons_append, List.mem_cons,
      List.not_mem_nil, or_false, reduceCtorEq, false_or, Expr.call.injEq] at member
    rcases member with rfl | rfl
    · show (["until", "for"] : List String).Nodup
      decide
    · exact List.nodup_nil
  have finite : waitOrLog.isFinite = true := by decide
  have read := (tagged_reread false).1 waitOrLog distinct
  rw [if_pos finite] at read
  exact ⟨distinct, read⟩

end Script

end TickScript
