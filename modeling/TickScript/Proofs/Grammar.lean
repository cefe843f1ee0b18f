import TickScript.Script.Loader
import Mathlib.Data.List.Forall2

/-! The documents that are scripts, said without reading them: which entries are comments, which
are commands, and what command an entry stands for. -/
namespace TickScript

namespace Json

/-- A list with the mark of a comment in front, or an object with the mark among its keys or as its
action. -/
inductive Comment : Json → Prop
  | list {rest : List Json} : Comment (.list (.str "#" :: rest))
  | key {fields : List (String × Json)} {value : Json} (marked : fields.lookup "#" = some value) :
      Comment (.object fields)
  | action {fields : List (String × Json)} (marked : fields.lookup "action" = some (.str "#")) :
      Comment (.object fields)

inductive ArgsOf : Option Json → List Json → Prop
  | absent : ArgsOf none []
  | list {items : List Json} : ArgsOf (some (.list items)) items

inductive BindingOf : Option Json → Option String → Prop
  | absent : BindingOf none none
  | null : BindingOf (some .null) none
  | name {s : String} : BindingOf (some (.str s)) (some s)

/-- The fields of an object whose keys have no meaning of their own. -/
def params (fields : List (String × Json)) : List (String × Json) :=
  fields.filter fun field => field.1 ∉ ["action", "args", ":IF", ":VAR"]

mutual

/-- A document in the place of an argument. -/
inductive IsExpr : Json → Prop
  | null : IsExpr .null
  | bool {b : Bool} : IsExpr (.bool b)
  | int {n : Int} : IsExpr (.int n)
  | float {x : Binary64} : IsExpr (.float x)
  | str {s : String} : IsExpr (.str s)
  | call {document : Json} (command : IsCommand document) (unmarked : ¬document.Comment) :
      IsExpr document

/-- A document in the place of a command. -/
inductive IsCommand : Json → Prop
  | list {name : String} {items : List Json} (args : ∀ item ∈ items, IsExpr item) :
      IsCommand (.list (.str name :: items))
  | object {fields : List (String × Json)} {name : String} {items : List Json}
      {binding : Option String} (action : fields.lookup "action" = some (.str name))
      (listed : ArgsOf (fields.lookup "args") items) (args : ∀ item ∈ items, IsExpr item)
      (guard : ∀ document, fields.lookup ":IF" = some document → IsExpr document)
      (bound : BindingOf (fields.lookup ":VAR") binding)
      (named : ∀ field ∈ params fields, IsExpr field.2) : IsCommand (.object fields)

end

mutual

/-- The expression that a document stands for. An integer stands for a float if it does not fit 64
bits. -/
inductive ExprOf : Json → Expr → Prop
  | null : ExprOf .null (.lit .null)
  | bool {b : Bool} : ExprOf (.bool b) (.lit (.bool b))
  | int {n : Int64} : ExprOf (.int n.toInt) (.lit (.int n))
  | wide {n : Int} (wide : ∀ m : Int64, m.toInt ≠ n) : ExprOf (.int n) (.lit (.float (.ofInt n)))
  | float {x : Binary64} : ExprOf (.float x) (.lit (.float x))
  | name {s : String} : ExprOf (.str s) (.name s)
  | call {document : Json} {command : Command} (stands : CommandOf document command)
      (unmarked : ¬document.Comment) : ExprOf document (.call command)

/-- The command that a document stands for. Named arguments keep the order of the fields. -/
inductive CommandOf : Json → Command → Prop
  | list {name : String} {items : List Json} {args : List Expr}
      (each : List.Forall₂ ExprOf items args) :
      CommandOf (.list (.str name :: items)) (.positional name args)
  | object {fields : List (String × Json)} {name : String} {items : List Json}
      {args : List Expr} {named : List (String × Expr)} {guard : Option Expr}
      {binding : Option String} (action : fields.lookup "action" = some (.str name))
      (listed : ArgsOf (fields.lookup "args") items) (each : List.Forall₂ ExprOf items args)
      (guarded : Option.Rel ExprOf (fields.lookup ":IF") guard)
      (bound : BindingOf (fields.lookup ":VAR") binding)
      (keys : named.map Prod.fst = (params fields).map Prod.fst)
      (values : List.Forall₂ ExprOf ((params fields).map Prod.snd) (named.map Prod.snd)) :
      CommandOf (.object fields) (.keyword name args named guard binding)

end

end Json

namespace Script

open Json

theorem isComment_iff (document : Json) : isComment document = true ↔ document.Comment := by
  constructor
  · intro marked
    cases document with
    | list items =>
      cases items with
      | nil => nomatch marked
      | cons head rest =>
        cases head with
        | str s =>
          cases eq_of_beq (show (s == commentMark) = true from marked)
          exact .list
        | null | bool | int | float | list | object => nomatch marked
    | object fields =>
      rcases Bool.or_eq_true_iff.mp marked with there | action
      · obtain ⟨value, found⟩ := Option.isSome_iff_exists.mp there
        exact .key found
      · cases under : fields.lookup actionKey with
        | none => simp [under] at action
        | some found =>
          rw [under, Option.any_some] at action
          cases found with
          | str s =>
            cases eq_of_beq (show (s == commentMark) = true from action)
            exact .action under
          | null | bool | int | float | list | object => nomatch action
    | null | bool | int | float | str => nomatch marked
  · intro comment
    cases comment with
    | list => rfl
    | key marked => simp [isComment, commentMark, marked]
    | action marked => simp [isComment, actionKey, commentMark, isMark, marked]

instance : DecidablePred Json.Comment := fun document =>
  decidable_of_iff _ (isComment_iff document)

section Fields

def Field.of (field : String × Json) : Field :=
  if field.1 = actionKey then .action field.2
  else if field.1 = argsKey then .args (readArgs field.2)
  else if field.1 = guardKey then .guard (readExpr field.2)
  else if field.1 = bindingKey then .binding field.2
  else .param field.1 (readExpr field.2)

theorem readFields_eq (fields : List (String × Json)) :
    readFields fields = fields.map Field.of := by
  induction fields with
  | nil => rfl
  | cons field rest ih => rw [readFields, ih]; rfl

/-- The first field with a role is the one that is found under the key of the role. -/
theorem findSome_fields {α : Type} {pick : Field → Option α} {key : String} {read : Json → α}
    (picks : ∀ field, pick (.of field) = if field.1 = key then some (read field.2) else none)
    (fields : List (String × Json)) :
    (fields.map Field.of).findSome? pick = (fields.lookup key).map read := by
  induction fields with
  | nil => rfl
  | cons field rest ih =>
    rw [List.map_cons, List.findSome?_cons, picks, List.lookup_cons, ih]
    by_cases same : field.1 = key
    · simp [same]
    · simp [same, beq_false_of_ne (Ne.symm same)]

theorem action_of (field : String × Json) :
    (Field.of field).action? = if field.1 = actionKey then some (id field.2) else none := by
  unfold Field.of
  split_ifs <;> rfl

theorem args_of (field : String × Json) :
    (Field.of field).args? = if field.1 = argsKey then some (readArgs field.2) else none := by
  unfold Field.of
  split_ifs <;> simp_all [Field.args?, actionKey, argsKey]

theorem guard_of (field : String × Json) :
    (Field.of field).guard? = if field.1 = guardKey then some (readExpr field.2) else none := by
  unfold Field.of
  split_ifs <;> simp_all [Field.guard?, actionKey, argsKey, guardKey]

theorem binding_of (field : String × Json) :
    (Field.of field).binding? = if field.1 = bindingKey then some (id field.2) else none := by
  unfold Field.of
  split_ifs <;> simp_all [Field.binding?, actionKey, argsKey, guardKey, bindingKey]

end Fields

section Except

variable {ε α β : Type} {result : Except ε α}

theorem bind_ok_iff {next : α → Except ε β} {value : β} :
    (result >>= next) = .ok value ↔ ∃ first, result = .ok first ∧ next first = .ok value := by
  cases result with
  | error error => simp [bind, Except.bind]
  | ok first => simp [bind, Except.bind]

theorem map_ok_iff {f : α → β} {value : β} :
    result.map f = .ok value ↔ ∃ first, result = .ok first ∧ f first = value := by
  cases result with
  | error error => simp [Except.map]
  | ok first => simp [Except.map]

end Except

def Reads (document : Json) : Prop :=
  ∀ expr, readExpr document = .ok expr ↔ ExprOf document expr

theorem readExprs_iff {items : List Json} (each : ∀ item ∈ items, Reads item) (exprs : List Expr) :
    readExprs items = .ok exprs ↔ List.Forall₂ ExprOf items exprs := by
  induction items generalizing exprs with
  | nil => simp [readExprs, eq_comm]
  | cons item rest ih =>
    obtain ⟨first, others⟩ := List.forall_mem_cons.mp each
    rw [readExprs, bind_ok_iff, List.forall₂_cons_left_iff]
    constructor
    · rintro ⟨expr, reads, more⟩
      obtain ⟨later, all, done⟩ := bind_ok_iff.mp more
      cases done
      exact ⟨expr, later, (first expr).mp reads, (ih others later).mp all, rfl⟩
    · rintro ⟨expr, later, stands, all, rfl⟩
      exact ⟨expr, (first expr).mpr stands, bind_ok_iff.mpr ⟨later, (ih others later).mpr all, rfl⟩⟩

theorem params_iff {fields : List (String × Json)} (each : ∀ field ∈ fields, Reads field.2)
    (named : List (String × Expr)) :
    Field.params (fields.map Field.of) = .ok named ↔
      named.map Prod.fst = (params fields).map Prod.fst ∧
        List.Forall₂ ExprOf ((params fields).map Prod.snd) (named.map Prod.snd) := by
  induction fields generalizing named with
  | nil =>
    constructor
    · rintro ⟨⟩
      exact ⟨rfl, .nil⟩
    · rintro ⟨keys, -⟩
      cases List.map_eq_nil_iff.mp keys
      rfl
  | cons field rest ih =>
    obtain ⟨first, others⟩ := List.forall_mem_cons.mp each
    by_cases own : field.1 ∈ ["action", "args", ":IF", ":VAR"]
    · have skipped : Field.params (.of field :: rest.map Field.of) =
          Field.params (rest.map Field.of) := by
        simp only [List.mem_cons, List.not_mem_nil, or_false] at own
        rcases own with same | same | same | same <;>
          simp [Field.of, same, actionKey, argsKey, guardKey, bindingKey, Field.params]
      have left_out : params (field :: rest) = params rest :=
        List.filter_cons_of_neg (by simpa only [decide_eq_true_eq, not_not] using own)
      rw [List.map_cons, skipped, left_out, ih others]
    · have kept : params (field :: rest) = field :: params rest :=
        List.filter_cons_of_pos (by simpa only [decide_eq_true_eq] using own)
      have param : Field.of field = .param field.1 (readExpr field.2) := by
        simp only [List.mem_cons, List.not_mem_nil, or_false, not_or] at own
        simp [Field.of, own, actionKey, argsKey, guardKey, bindingKey]
      rw [List.map_cons, param, Field.params, bind_ok_iff, kept]
      simp only [List.map_cons]
      constructor
      · rintro ⟨expr, reads, more⟩
        obtain ⟨later, all, done⟩ := bind_ok_iff.mp more
        cases done
        obtain ⟨keys, values⟩ := (ih others later).mp all
        exact ⟨congrArg _ keys, .cons ((first expr).mp reads) values⟩
      · rintro ⟨keys, values⟩
        cases named with
        | nil => nomatch keys
        | cons entry later =>
          obtain ⟨key, expr⟩ := entry
          obtain ⟨rfl, later_keys⟩ := List.cons.inj keys
          obtain ⟨stands, later_values⟩ := List.forall₂_cons.mp values
          refine ⟨expr, (first expr).mpr stands, bind_ok_iff.mpr ⟨later, ?_, rfl⟩⟩
          exact (ih others later).mpr ⟨later_keys, later_values⟩

theorem nameOf_iff {found : Option Json} {name : String} :
    Field.nameOf found = .ok name ↔ found = some (.str name) := by
  unfold Field.nameOf
  split <;> simp_all

theorem argsOf_iff {found : Option Json} {args : List Expr}
    (each : ∀ document, found = some document → ∀ item ∈ document.items, Reads item) :
    (found.map readArgs).getD (.ok []) = .ok args ↔
      ∃ items, ArgsOf found items ∧ List.Forall₂ ExprOf items args := by
  cases found with
  | none =>
    constructor
    · rintro ⟨⟩
      exact ⟨[], .absent, .nil⟩
    · rintro ⟨items, ⟨⟩, ⟨⟩⟩
      rfl
  | some document =>
    rw [Option.map_some, Option.getD_some]
    cases document with
    | list items =>
      have all : ∀ item ∈ items, Reads item := each _ rfl
      rw [readArgs, readExprs_iff all]
      constructor
      · exact fun all => ⟨items, .list, all⟩
      · rintro ⟨items, ⟨⟩, all⟩
        exact all
    | null | bool | int | float | str | object =>
      constructor
      · exact nofun
      · rintro ⟨items, ⟨⟩, all⟩

theorem guardOf_iff {found : Option Json} {guard : Option Expr}
    (each : ∀ document, found = some document → Reads document) :
    Field.guardOf (found.map readExpr) = .ok guard ↔ Option.Rel ExprOf found guard := by
  cases found with
  | none =>
    constructor
    · rintro ⟨⟩
      exact .none
    · rintro ⟨⟩
      rfl
  | some document =>
    rw [Option.map_some, Field.guardOf, map_ok_iff]
    constructor
    · rintro ⟨expr, reads, rfl⟩
      exact .some ((each document rfl expr).mp reads)
    · rintro ⟨stands⟩
      exact ⟨_, (each document rfl _).mpr stands, rfl⟩

theorem bindingOf_iff {found : Option Json} {binding : Option String} :
    Field.bindingOf found = .ok binding ↔ BindingOf found binding := by
  constructor
  · intro read
    unfold Field.bindingOf at read
    split at read
    · cases read
      exact .absent
    · cases read
      exact .null
    · cases read
      exact .name
    · nomatch read
  · rintro ⟨⟩ <;> rfl

theorem mem_of_lookup {fields : List (String × Json)} {key : String} {document : Json}
    (found : fields.lookup key = some document) : (key, document) ∈ fields := by
  obtain ⟨before, after, rfl, -⟩ := List.lookup_eq_some_iff.mp found
  exact List.mem_append_right _ (.head _)

theorem mem_argsOf {found : Option Json} {items : List Json} (listed : ArgsOf found items)
    {item : Json} (member : item ∈ items) :
    ∃ document, found = some document ∧ item ∈ document.items := by
  cases listed with
  | absent => nomatch member
  | list => exact ⟨_, rfl, member⟩

theorem toCommand_iff {fields : List (String × Json)}
    (each : ∀ field ∈ fields, Reads field.2 ∧ ∀ item ∈ field.2.items, Reads item)
    (command : Command) :
    Field.toCommand (readFields fields) = .ok command ↔ CommandOf (.object fields) command := by
  have under {key : String} (document : Json) (found : fields.lookup key = some document) :=
    each _ (mem_of_lookup found)
  simp only [Field.toCommand, readFields_eq, findSome_fields action_of, findSome_fields args_of,
    findSome_fields guard_of, findSome_fields binding_of, Option.map_id, id, bind_ok_iff,
    nameOf_iff, bindingOf_iff, argsOf_iff fun document found => (under document found).2,
    guardOf_iff fun document found => (under document found).1,
    params_iff fun field member => (each field member).1, Except.ok.injEq]
  constructor
  · rintro ⟨name, action, args, ⟨items, listed, all⟩, guard, guarded, binding, bound, named,
      ⟨keys, values⟩, rfl⟩
    exact .object action listed all guarded bound keys values
  · rintro (_ | ⟨action, listed, all, guarded, bound, keys, values⟩)
    exact ⟨_, action, _, ⟨_, listed, all⟩, _, guarded, _, bound, _, ⟨keys, values⟩, rfl⟩

theorem readList_iff {items : List Json} (each : ∀ item ∈ items, Reads item) (command : Command) :
    readList items = .ok command ↔ CommandOf (.list items) command := by
  rcases items with _ | ⟨head, rest⟩
  · exact ⟨nofun, nofun⟩
  · have others := (List.forall_mem_cons.mp each).2
    cases head with
    | str name =>
      rw [readList, map_ok_iff]
      constructor
      · rintro ⟨args, reads, rfl⟩
        exact .list ((readExprs_iff others args).mp reads)
      · rintro ⟨all⟩
        exact ⟨_, (readExprs_iff others _).mpr all, rfl⟩
    | null | bool | int | float | list | object => exact ⟨nofun, nofun⟩

theorem literal_toInt (n : Int64) : literal n.toInt = .int n := by
  rw [literal, fitInt64_toInt]

theorem literal_wide {n : Int} (wide : ∀ m : Int64, m.toInt ≠ n) :
    literal n = .float (.ofInt n) := by
  have exceeds : ¬Literal.isInt64 n = true := by
    intro fits
    simp only [Literal.isInt64, Bool.and_eq_true, decide_eq_true_eq] at fits
    exact wide (.ofInt n) (Int64.toInt_ofInt_of_le (by omega) (by omega))
  rw [literal, fitInt64?, if_neg exceeds]

/-- A document whose kind is that of commands stands for an expression as a nested command only. -/
def Nested (document : Json) : Prop :=
  (∀ expr, ExprOf document expr → ∃ command, expr = .call command ∧ CommandOf document command ∧
    ¬document.Comment) ∧ (IsExpr document → IsCommand document ∧ ¬document.Comment)

theorem nested_list (items : List Json) : Nested (.list items) :=
  ⟨fun | _, .call stands unmarked => ⟨_, rfl, stands, unmarked⟩,
    fun | .call command unmarked => ⟨command, unmarked⟩⟩

theorem nested_object (fields : List (String × Json)) : Nested (.object fields) :=
  ⟨fun | _, .call stands unmarked => ⟨_, rfl, stands, unmarked⟩,
    fun | .call command unmarked => ⟨command, unmarked⟩⟩

theorem Nested.reads {document : Json} (nested : Nested document)
    {result : Except EntryError Command}
    (read : readExpr document =
      if isComment document then .error .nestedComment else result.map .call)
    (command : ∀ command, result = .ok command ↔ CommandOf document command) : Reads document := by
  intro expr
  rw [read]
  by_cases marked : isComment document = true
  · rw [if_pos marked]
    refine ⟨nofun, fun stands => ?_⟩
    obtain ⟨_, -, -, unmarked⟩ := nested.1 expr stands
    exact absurd ((isComment_iff document).mp marked) unmarked
  · have unmarked : ¬document.Comment := marked ∘ (isComment_iff document).mpr
    rw [if_neg marked, map_ok_iff]
    constructor
    · rintro ⟨inner, read, rfl⟩
      exact .call ((command inner).mp read) unmarked
    · intro stands
      obtain ⟨inner, rfl, stands, -⟩ := nested.1 expr stands
      exact ⟨inner, (command inner).mpr stands, rfl⟩

theorem reads (document : Json) : Reads document := by
  induction document using Json.induct with
  | null => exact fun expr => ⟨fun | rfl => .null, fun | .null => rfl⟩
  | bool b => exact fun expr => ⟨fun | rfl => .bool, fun | .bool => rfl⟩
  | float x => exact fun expr => ⟨fun | rfl => .float, fun | .float => rfl⟩
  | str s => exact fun expr => ⟨fun | rfl => .name, fun | .name => rfl⟩
  | int n =>
    intro expr
    rw [readExpr, Except.ok.injEq]
    constructor
    · rintro rfl
      by_cases fits : ∃ m : Int64, m.toInt = n
      · obtain ⟨m, rfl⟩ := fits
        rw [literal_toInt]
        exact .int
      · have wide := not_exists.mp fits
        rw [literal_wide wide]
        exact .wide wide
    · intro stands
      cases stands with
      | int => rw [literal_toInt]
      | wide wide => rw [literal_wide wide]
      | call stands _ => nomatch stands
  | list items each => exact (nested_list items).reads (by rw [readExpr]) (readList_iff each)
  | object fields each => exact (nested_object fields).reads (by rw [readExpr]) (toCommand_iff each)

theorem readCommand_iff (document : Json) (command : Command) :
    readCommand document = .ok command ↔ CommandOf document command := by
  cases document with
  | list items => exact readList_iff (fun item _ => reads item) command
  | object fields =>
    exact toCommand_iff (fun field _ => ⟨reads field.2, fun item _ => reads item⟩) command
  | null | bool | int | float | str => exact ⟨nofun, nofun⟩

def Meant (document : Json) : Prop :=
  IsExpr document ↔ ∃ expr, ExprOf document expr

theorem each_meant {items : List Json} (each : ∀ item ∈ items, Meant item) :
    (∀ item ∈ items, IsExpr item) ↔ ∃ exprs, List.Forall₂ ExprOf items exprs := by
  induction items with
  | nil => exact ⟨fun _ => ⟨[], .nil⟩, fun _ => nofun⟩
  | cons item rest ih =>
    obtain ⟨first, others⟩ := List.forall_mem_cons.mp each
    rw [List.forall_mem_cons, ih others]
    constructor
    · rintro ⟨argument, exprs, all⟩
      obtain ⟨expr, stands⟩ := first.mp argument
      exact ⟨expr :: exprs, .cons stands all⟩
    · rintro ⟨_, all⟩
      obtain ⟨expr, exprs, stands, later, rfl⟩ := List.forall₂_cons_left_iff.mp all
      exact ⟨first.mpr ⟨expr, stands⟩, exprs, later⟩

theorem params_meant {fields : List (String × Json)} (each : ∀ field ∈ fields, Meant field.2) :
    (∀ field ∈ params fields, IsExpr field.2) ↔
      ∃ named : List (String × Expr), named.map Prod.fst = (params fields).map Prod.fst ∧
        List.Forall₂ ExprOf ((params fields).map Prod.snd) (named.map Prod.snd) := by
  have values : ∀ document ∈ (params fields).map Prod.snd, Meant document :=
    List.forall_mem_map.mpr fun field member => each field (List.mem_filter.mp member).1
  rw [← List.forall_mem_map (f := Prod.snd) (P := IsExpr), each_meant values]
  constructor
  · rintro ⟨exprs, all⟩
    have sized : ((params fields).map Prod.fst).length = exprs.length := by
      rw [← all.length_eq, List.length_map, List.length_map]
    refine ⟨((params fields).map Prod.fst).zip exprs, List.map_fst_zip (Nat.le_of_eq sized), ?_⟩
    rwa [List.map_snd_zip (Nat.le_of_eq sized.symm)]
  · rintro ⟨named, -, all⟩
    exact ⟨_, all⟩

theorem isCommand_list {items : List Json} (each : ∀ item ∈ items, Meant item) :
    IsCommand (.list items) ↔ ∃ command, CommandOf (.list items) command := by
  constructor
  · rintro ⟨args⟩
    obtain ⟨exprs, all⟩ := (each_meant (List.forall_mem_cons.mp each).2).mp args
    exact ⟨_, .list all⟩
  · rintro ⟨_, ⟨all⟩⟩
    exact .list ((each_meant (List.forall_mem_cons.mp each).2).mpr ⟨_, all⟩)

theorem isCommand_object {fields : List (String × Json)}
    (each : ∀ field ∈ fields, Meant field.2 ∧ ∀ item ∈ field.2.items, Meant item) :
    IsCommand (.object fields) ↔ ∃ command, CommandOf (.object fields) command := by
  have listed_meant {items : List Json} (listed : ArgsOf (fields.lookup "args") items) :
      ∀ item ∈ items, Meant item := by
    intro item member
    obtain ⟨document, under, there⟩ := mem_argsOf listed member
    exact (each _ (mem_of_lookup under)).2 item there
  have guard_meant {document : Json} (under : fields.lookup ":IF" = some document) :
      Meant document := (each _ (mem_of_lookup under)).1
  have named_meant := params_meant fun field member => (each field member).1
  constructor
  · rintro (_ | ⟨action, listed, args, guard, bound, named⟩)
    obtain ⟨exprs, all⟩ := (each_meant (listed_meant listed)).mp args
    obtain ⟨named, keys, values⟩ := named_meant.mp named
    have guarded : ∃ expr, Option.Rel ExprOf (fields.lookup ":IF") expr := by
      cases under : fields.lookup ":IF" with
      | none => exact ⟨none, .none⟩
      | some document =>
        obtain ⟨expr, stands⟩ := (guard_meant under).mp (guard document under)
        exact ⟨some expr, .some stands⟩
    obtain ⟨expr, guarded⟩ := guarded
    exact ⟨_, .object action listed all guarded bound keys values⟩
  · rintro ⟨_, (_ | ⟨action, listed, all, guarded, bound, keys, values⟩)⟩
    refine .object action listed ((each_meant (listed_meant listed)).mpr ⟨_, all⟩) ?_ bound
      (named_meant.mpr ⟨_, keys, values⟩)
    intro document under
    rw [under] at guarded
    cases guarded with
    | some stands => exact (guard_meant under).mpr ⟨_, stands⟩

theorem Nested.meant {document : Json} (nested : Nested document)
    (command : IsCommand document ↔ ∃ command, CommandOf document command) : Meant document := by
  constructor
  · intro argument
    obtain ⟨wellFormed, unmarked⟩ := nested.2 argument
    obtain ⟨inner, stands⟩ := command.mp wellFormed
    exact ⟨.call inner, .call stands unmarked⟩
  · rintro ⟨expr, stands⟩
    obtain ⟨inner, -, stands, unmarked⟩ := nested.1 expr stands
    exact .call (command.mpr ⟨inner, stands⟩) unmarked

theorem meant (document : Json) : Meant document := by
  induction document using Json.induct with
  | null => exact ⟨fun _ => ⟨_, .null⟩, fun _ => .null⟩
  | bool b => exact ⟨fun _ => ⟨_, .bool⟩, fun _ => .bool⟩
  | float x => exact ⟨fun _ => ⟨_, .float⟩, fun _ => .float⟩
  | str s => exact ⟨fun _ => ⟨_, .name⟩, fun _ => .str⟩
  | int n => exact ⟨fun _ => ⟨_, (reads (.int n) _).mp rfl⟩, fun _ => .int⟩
  | list items each => exact (nested_list items).meant (isCommand_list each)
  | object fields each => exact (nested_object fields).meant (isCommand_object each)

theorem isCommand_iff (document : Json) :
    IsCommand document ↔ ∃ command, CommandOf document command := by
  cases document with
  | list items => exact isCommand_list fun item _ => meant item
  | object fields => exact isCommand_object fun field _ => ⟨meant field.2, fun item _ => meant item⟩
  | null | bool | int | float | str => exact ⟨nofun, fun ⟨_, stands⟩ => nomatch stands⟩

/-- A document stands for one command at most. -/
theorem commandOf_unique {document : Json} {first second : Command}
    (stands : CommandOf document first) (also : CommandOf document second) : first = second := by
  have read := (readCommand_iff document first).mpr stands
  rw [(readCommand_iff document second).mpr also] at read
  exact (Except.ok.inj read).symm

end Script

end TickScript
