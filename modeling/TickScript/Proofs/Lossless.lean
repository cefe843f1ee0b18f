import TickScript.Proofs.Loading

/-! What of a document is in its script. Two documents are loaded as the same script just if they
are the same but for the order of keys and for fields that say no more than their absence, which are
an empty list of arguments and a null for the name of the value. -/
namespace TickScript

namespace Json

/-- A field that says no more than its absence. -/
def isIdle : String × Json → Bool
  | ("args", .list []) => true
  | (":VAR", .null) => true
  | _ => false

mutual

def bare : Json → Json
  | .list items => .list (bareItems items)
  | .object fields => .object (bareFields fields)
  | other => other

def bareItems : List Json → List Json
  | [] => []
  | item :: rest => item.bare :: bareItems rest

def bareFields : List (String × Json) → List (String × Json)
  | [] => []
  | (key, value) :: rest =>
    if isIdle (key, value) then bareFields rest else (key, value.bare) :: bareFields rest

end

inductive Within (part : Json) : Json → Prop
  | self : Within part part
  | item {items : List Json} {item : Json} (member : item ∈ items) (deeper : Within part item) :
      Within part (.list items)
  | field {fields : List (String × Json)} {field : String × Json} (member : field ∈ fields)
      (deeper : Within part field.2) : Within part (.object fields)

section Within

variable {part : Json}

@[simp] theorem within_list_iff {items : List Json} :
    part.Within (.list items) ↔ part = .list items ∨ ∃ item ∈ items, part.Within item := by
  constructor
  · rintro (_ | ⟨member, deeper⟩)
    · exact .inl rfl
    · exact .inr ⟨_, member, deeper⟩
  · rintro (rfl | ⟨item, member, deeper⟩)
    · exact .self
    · exact .item member deeper

@[simp] theorem within_object_iff {fields : List (String × Json)} :
    part.Within (.object fields) ↔
      part = .object fields ∨ ∃ field ∈ fields, part.Within field.2 := by
  constructor
  · rintro (_ | _ | ⟨member, deeper⟩)
    · exact .inl rfl
    · exact .inr ⟨_, member, deeper⟩
  · rintro (rfl | ⟨field, member, deeper⟩)
    · exact .self
    · exact .field member deeper

end Within

section Canonical

theorem areCanonical_iff {items : List Json} :
    AreCanonical items ↔ ∀ item ∈ items, item.IsCanonical := by
  induction items with
  | nil => simp [AreCanonical]
  | cons item rest ih => simp [AreCanonical, ih]

theorem haveCanonical_iff {fields : List (String × Json)} :
    HaveCanonical fields ↔ ∀ field ∈ fields, field.2.IsCanonical := by
  induction fields with
  | nil => simp [HaveCanonical]
  | cons field rest ih => simp [HaveCanonical, ih]

theorem canonicalItems_eq (items : List Json) : canonicalItems items = items.map canonical := by
  induction items with
  | nil => rfl
  | cons item rest ih => rw [canonicalItems, ih, List.map_cons]

theorem canonicalFields_eq (fields : List (String × Json)) :
    canonicalFields fields = fields.map fun field => (field.1, field.2.canonical) := by
  induction fields with
  | nil => rfl
  | cons field rest ih => rw [canonicalFields, ih, List.map_cons]

/-- The canonical form of a document has its keys in order, at every depth. -/
theorem canonical_isCanonical (document : Json) : document.canonical.IsCanonical := by
  induction document using Json.induct with
  | null | bool | int | float | str => trivial
  | list items each =>
    rw [canonical, IsCanonical, areCanonical_iff, canonicalItems_eq]
    exact List.forall_mem_map.mpr each
  | object fields each =>
    rw [canonical, IsCanonical, haveCanonical_iff]
    constructor
    · exact (Table.ofList _).increasing
    · intro field member
      have written := Table.mem_ofList member
      rw [canonicalFields_eq] at written
      obtain ⟨source, there, rfl⟩ := List.mem_map.mp written
      exact (each source there).1

end Canonical

section Bare

theorem bare_str (s : String) : (Json.str s).bare = .str s := rfl

theorem bareFields_eq (fields : List (String × Json)) :
    bareFields fields =
      (fields.filter fun field => !isIdle field).map fun field => (field.1, field.2.bare) := by
  induction fields with
  | nil => rfl
  | cons field rest ih =>
    rw [bareFields, ih]
    cases idle : isIdle field <;> simp [idle]

variable {fields : List (String × Json)}

theorem bareFields_increasing (sorted : fields.Pairwise (fun a b => a.1 < b.1)) :
    (bareFields fields).Pairwise (fun a b => a.1 < b.1) := by
  rw [bareFields_eq, List.pairwise_map]
  exact sorted.filter _

/-- Of the fields under a key, which are one at most, the ones that are not idle are kept. -/
theorem lookup_bareFields (sorted : fields.Pairwise (fun a b => a.1 < b.1)) (key : String) :
    (bareFields fields).lookup key =
      ((fields.lookup key).filter fun value => !isIdle (key, value)).map bare := by
  induction fields with
  | nil => rfl
  | cons field rest ih =>
    obtain ⟨name, value⟩ := field
    obtain ⟨above, tail⟩ := List.pairwise_cons.mp sorted
    have kept := ih tail
    rw [bareFields]
    by_cases same : key = name
    · subst same
      have none_after : rest.lookup key = none := Table.lookup_below above
      rw [none_after] at kept
      cases idle : isIdle (key, value) <;> simp [idle, kept, Option.filter_some]
    · have different : (key == name) = false := beq_false_of_ne same
      cases isIdle (name, value) <;> simp [List.lookup_cons, different, kept]

/-- No field is idle but under the keys of the arguments and the name. -/
theorem lookup_bareFields_of_ne (sorted : fields.Pairwise (fun a b => a.1 < b.1)) {key : String}
    (args : key ≠ "args") (binding : key ≠ ":VAR") :
    (bareFields fields).lookup key = (fields.lookup key).map bare := by
  have needed (value : Json) : isIdle (key, value) = false := by
    unfold isIdle
    split <;> simp_all
  rw [lookup_bareFields sorted]
  cases fields.lookup key with
  | none => rfl
  | some value => simp [needed]

end Bare

/-- A document with its keys in order and with no integer but those of 64 bits with a sign. -/
structure Plain (document : Json) : Prop where
  canonical : document.IsCanonical
  fits : ∀ n, (Json.int n).Within document → ∃ m : Int64, m.toInt = n

namespace Plain

theorem items {document : Json} (plain : Plain document) : ∀ item ∈ document.items, Plain item := by
  intro item member
  cases document with
  | list items =>
    constructor
    · exact areCanonical_iff.mp plain.canonical item member
    · intro n within
      exact plain.fits n (.item member within)
  | null | bool | int | float | str | object => nomatch member

variable {fields : List (String × Json)}

theorem increasing (plain : Plain (.object fields)) :
    fields.Pairwise (fun a b => a.1 < b.1) := plain.canonical.1

theorem field (plain : Plain (.object fields)) : ∀ field ∈ fields, Plain field.2 := by
  intro field member
  constructor
  · exact haveCanonical_iff.mp plain.canonical.2 field member
  · intro n within
    exact plain.fits n (.field member within)

end Plain

end Json

namespace Script

open Json

/-- A document can be told by its expression from others, but for idle fields. -/
def Tells (document : Json) : Prop :=
  ∀ other expr also, Plain other → ExprOf document expr → ExprOf other also →
    (expr = also ↔ document.bare = other.bare)

theorem each_tells {items others : List Json} {exprs also : List Expr}
    (tells : ∀ item ∈ items, Tells item) (plain : ∀ item ∈ others, Plain item)
    (all : List.Forall₂ ExprOf items exprs) (other_all : List.Forall₂ ExprOf others also) :
    exprs = also ↔ bareItems items = bareItems others := by
  induction all generalizing others also with
  | nil => cases other_all <;> simp [bareItems]
  | cons stands rest ih =>
    cases other_all with
    | nil => simp [bareItems]
    | cons other_stands other_rest =>
      obtain ⟨first, others⟩ := List.forall_mem_cons.mp tells
      obtain ⟨plain_first, plain_others⟩ := List.forall_mem_cons.mp plain
      rw [List.cons.injEq, bareItems, bareItems, List.cons.injEq,
        first _ _ _ plain_first stands other_stands, ih others plain_others other_rest]

theorem under_tells {found other : Option Json} {expr also : Option Expr}
    (tells : ∀ document, found = some document → Tells document)
    (plain : ∀ document, other = some document → Plain document)
    (stands : Option.Rel ExprOf found expr) (other_stands : Option.Rel ExprOf other also) :
    expr = also ↔ found.map bare = other.map bare := by
  cases stands with
  | none => cases other_stands <;> simp
  | some stands =>
    cases other_stands with
    | none => simp
    | some other_stands =>
      rw [Option.some.injEq, Option.map_some, Option.map_some, Option.some.injEq]
      exact tells _ rfl _ _ _ (plain _ rfl) stands other_stands

section Fields

variable {fields : List (String × Json)} {items : List Json}

theorem bare_action (sorted : fields.Pairwise (fun a b => a.1 < b.1)) {name : String}
    (action : fields.lookup "action" = some (.str name)) :
    (bareFields fields).lookup "action" = some (.str name) := by
  rw [lookup_bareFields_of_ne sorted (by decide) (by decide), action]
  rfl

theorem bare_args (sorted : fields.Pairwise (fun a b => a.1 < b.1))
    (listed : ArgsOf (fields.lookup "args") items) :
    (bareFields fields).lookup "args" =
      if items.isEmpty then none else some (.list (bareItems items)) := by
  rw [lookup_bareFields sorted]
  generalize fields.lookup "args" = found at listed ⊢
  cases listed with
  | absent => rfl
  | list => cases items <;> rfl

theorem bare_binding (sorted : fields.Pairwise (fun a b => a.1 < b.1)) {binding : Option String}
    (bound : BindingOf (fields.lookup ":VAR") binding) :
    (bareFields fields).lookup ":VAR" = binding.map .str := by
  rw [lookup_bareFields sorted]
  generalize fields.lookup ":VAR" = found at bound ⊢
  cases bound <;> rfl

theorem bare_param (sorted : fields.Pairwise (fun a b => a.1 < b.1)) {key : String}
    (plain : key ∉ ["action", "args", ":IF", ":VAR"]) :
    (bareFields fields).lookup key = (fields.lookup key).map bare := by
  apply lookup_bareFields_of_ne sorted
  · rintro rfl
    exact plain (by decide)
  · rintro rfl
    exact plain (by decide)

/-- Named arguments have the order of the fields. -/
theorem named_increasing (sorted : fields.Pairwise (fun a b => a.1 < b.1))
    {named : List (String × Expr)} (keys : named.map Prod.fst = (params fields).map Prod.fst) :
    named.Pairwise (fun a b => a.1 < b.1) := by
  rw [← List.pairwise_map (R := (· < ·)), keys, List.pairwise_map]
  exact sorted.filter _

theorem lookup_filter_key {α : Type} (keep : String → Bool) (entries : List (String × α))
    (key : String) : (entries.filter fun entry => keep entry.1).lookup key =
      if keep key then entries.lookup key else none := by
  induction entries with
  | nil => simp
  | cons entry rest ih =>
    obtain ⟨name, value⟩ := entry
    by_cases same : key = name
    · subst same
      cases kept : keep key <;> simp [kept, ih]
    · have different : (key == name) = false := beq_false_of_ne same
      cases kept : keep name <;> simp [kept, List.lookup_cons, different, ih]

/-- The keys with a meaning of their own are left out of the named arguments. -/
theorem lookup_params (fields : List (String × Json)) (key : String) :
    (params fields).lookup key =
      if key ∈ ["action", "args", ":IF", ":VAR"] then none else fields.lookup key := by
  rw [params, lookup_filter_key fun key => decide (key ∉ ["action", "args", ":IF", ":VAR"])]
  simp only [decide_eq_true_eq, ite_not]

/-- With the same keys in the same order, what stands under a key is related as the values are. -/
theorem lookup_rel {entries : List (String × Json)} {named : List (String × Expr)}
    (keys : named.map Prod.fst = entries.map Prod.fst)
    (values : List.Forall₂ ExprOf (entries.map Prod.snd) (named.map Prod.snd)) (key : String) :
    Option.Rel ExprOf (entries.lookup key) (named.lookup key) := by
  induction entries generalizing named with
  | nil =>
    cases List.map_eq_nil_iff.mp keys
    exact .none
  | cons field rest ih =>
    cases named with
    | nil => nomatch keys
    | cons entry later =>
      obtain ⟨name, value⟩ := field
      obtain ⟨other, expr⟩ := entry
      obtain ⟨rfl, later_keys⟩ := List.cons.inj keys
      obtain ⟨stands, later_values⟩ := List.forall₂_cons.mp values
      rw [List.lookup_cons, List.lookup_cons]
      cases key == other with
      | true => exact .some stands
      | false => exact ih later_keys later_values

end Fields

section Objects

variable {fields others : List (String × Json)}

theorem args_tell (plain : Plain (.object fields)) (other_plain : Plain (.object others))
    (tells : ∀ field ∈ fields, ∀ item ∈ field.2.items, Tells item) {items other_items : List Json}
    {args also : List Expr} (listed : ArgsOf (fields.lookup "args") items)
    (all : List.Forall₂ ExprOf items args)
    (other_listed : ArgsOf (others.lookup "args") other_items)
    (other_all : List.Forall₂ ExprOf other_items also) :
    args = also ↔ (bareFields fields).lookup "args" = (bareFields others).lookup "args" := by
  have item_tells : ∀ item ∈ items, Tells item := by
    intro item member
    obtain ⟨document, under, there⟩ := mem_argsOf listed member
    exact tells _ (mem_of_lookup under) item there
  have item_plain : ∀ item ∈ other_items, Plain item := by
    intro item member
    obtain ⟨document, under, there⟩ := mem_argsOf other_listed member
    exact (other_plain.field _ (mem_of_lookup under)).items item there
  rw [each_tells item_tells item_plain all other_all, bare_args plain.increasing listed,
    bare_args other_plain.increasing other_listed]
  cases items <;> cases other_items <;> simp [bareItems]

theorem named_tell (plain : Plain (.object fields)) (other_plain : Plain (.object others))
    (tells : ∀ field ∈ fields, Tells field.2) {named also : List (String × Expr)}
    (keys : named.map Prod.fst = (params fields).map Prod.fst)
    (values : List.Forall₂ ExprOf ((params fields).map Prod.snd) (named.map Prod.snd))
    (other_keys : also.map Prod.fst = (params others).map Prod.fst)
    (other_values : List.Forall₂ ExprOf ((params others).map Prod.snd) (also.map Prod.snd)) :
    named = also ↔ ∀ key ∉ ["action", "args", ":IF", ":VAR"],
      (bareFields fields).lookup key = (bareFields others).lookup key := by
  -- The arguments are compared key by key, since idle fields may stand between them.
  have under (key : String) : named.lookup key = also.lookup key ↔
      ((params fields).lookup key).map bare = ((params others).lookup key).map bare := by
    apply under_tells _ _ (lookup_rel keys values key) (lookup_rel other_keys other_values key)
    · intro document found
      exact tells _ (List.mem_filter.mp (mem_of_lookup found)).1
    · intro document found
      exact other_plain.field _ (List.mem_filter.mp (mem_of_lookup found)).1
  simp only [lookup_params] at under
  constructor
  · rintro rfl key own
    rw [bare_param plain.increasing own, bare_param other_plain.increasing own]
    simpa only [if_neg own] using (under key).mp rfl
  · intro same
    apply Table.lookup_ext (named_increasing plain.increasing keys)
      (named_increasing other_plain.increasing other_keys)
    intro key
    rw [under key]
    split_ifs with own
    · rfl
    · rw [← bare_param plain.increasing own, ← bare_param other_plain.increasing own]
      exact same key own

/-- Each part of a command is told by what stands under its key. -/
theorem object_tells (plain : Plain (.object fields)) (other_plain : Plain (.object others))
    (tells : ∀ field ∈ fields, Tells field.2 ∧ ∀ item ∈ field.2.items, Tells item)
    {command also : Command} (stands : CommandOf (.object fields) command)
    (other_stands : CommandOf (.object others) also) :
    command = also ↔ bareFields fields = bareFields others := by
  obtain (_ | ⟨action, listed, all, guarded, bound, keys, values⟩) := stands
  obtain (_ | ⟨other_action, other_listed, other_all, other_guarded, other_bound, other_keys,
    other_values⟩) := other_stands
  have sorted := plain.increasing
  have other_sorted := other_plain.increasing
  have by_args := args_tell plain other_plain (fun field member => (tells field member).2) listed all
    other_listed other_all
  have by_named := named_tell plain other_plain (fun field member => (tells field member).1) keys
    values other_keys other_values
  have by_guard := under_tells (fun _ found => (tells _ (mem_of_lookup found)).1)
    (fun _ found => other_plain.field _ (mem_of_lookup found)) guarded other_guarded
  rw [← lookup_bareFields_of_ne sorted (by decide) (by decide),
    ← lookup_bareFields_of_ne other_sorted (by decide) (by decide)] at by_guard
  have by_action := bare_action sorted action
  have by_other_action := bare_action other_sorted other_action
  have by_binding := bare_binding sorted bound
  have by_other_binding := bare_binding other_sorted other_bound
  rw [Command.keyword.injEq, by_args, by_named, by_guard]
  constructor
  · rintro ⟨rfl, args, named, guard, rfl⟩
    apply Table.lookup_ext (bareFields_increasing sorted) (bareFields_increasing other_sorted)
    intro key
    by_cases own : key ∈ ["action", "args", ":IF", ":VAR"]
    · simp only [List.mem_cons, List.not_mem_nil, or_false] at own
      rcases own with rfl | rfl | rfl | rfl
      · rw [by_action, by_other_action]
      · exact args
      · exact guard
      · rw [by_binding, by_other_binding]
    · exact named key own
  · intro same
    rw [same] at by_action by_binding ⊢
    rw [by_action] at by_other_action
    rw [by_binding] at by_other_binding
    cases by_other_action
    refine ⟨rfl, rfl, fun _ _ => rfl, rfl, ?_⟩
    exact Option.map_injective (fun _ _ => Json.str.inj) by_other_binding

end Objects

theorem atom_tells {document : Json} (plain : Plain document)
    (list : ∀ items, document ≠ .list items) (object : ∀ fields, document ≠ .object fields) :
    Tells document := by
  intro other expr also other_plain stands other_stands
  cases stands with
  | call stands _ =>
    cases stands with
    | list => exact absurd rfl (list _)
    | object => exact absurd rfl (object _)
  | wide wide =>
    obtain ⟨m, fits⟩ := plain.fits _ .self
    exact absurd fits (wide m)
  | null | bool | int | float | name =>
    cases other_stands with
    | call stands _ => cases stands <;> simp [bare]
    | wide wide =>
      obtain ⟨m, fits⟩ := other_plain.fits _ .self
      exact absurd fits (wide m)
    | null | bool | int | float | name => simp [bare, Int64.toInt_inj]

/-- By induction on the document. A nested command is told by its name and its parts, and from all
other expressions by being one. -/
theorem tells (document : Json) (plain : Plain document) : Tells document := by
  induction document using Json.induct with
  | null | bool | int | float | str => exact atom_tells plain nofun nofun
  | list items each =>
    have inner : ∀ item ∈ items, Tells item :=
      fun item member => each item member (plain.items item member)
    intro other expr also other_plain stands other_stands
    cases stands with
    | call stands _ =>
      cases stands with
      | list all =>
        cases other_stands with
        | call other_stands _ =>
          cases other_stands with
          | list other_all =>
            rw [Expr.call.injEq, Command.positional.injEq, bare, bare, Json.list.injEq, bareItems,
              bareItems, List.cons.injEq, bare_str, bare_str, Json.str.injEq,
              each_tells (List.forall_mem_cons.mp inner).2
                (List.forall_mem_cons.mp other_plain.items).2 all other_all]
          | object => simp [bare]
        | null | bool | int | wide | float | name => simp [bare]
  | object fields each =>
    have inner : ∀ field ∈ fields, Tells field.2 ∧ ∀ item ∈ field.2.items, Tells item := by
      intro field member
      obtain ⟨value, items⟩ := each field member
      have plain_value := plain.field field member
      constructor
      · exact value plain_value
      · intro item listed
        exact items item listed (plain_value.items item listed)
    intro other expr also other_plain stands other_stands
    cases stands with
    | call stands _ =>
      cases other_stands with
      | call other_stands _ =>
        cases other_stands with
        | list =>
          cases stands
          simp [bare]
        | object action listed all guarded bound keys values =>
          rw [Expr.call.injEq, bare, bare, Json.object.injEq]
          exact object_tells plain other_plain inner stands
            (.object action listed all guarded bound keys values)
      | null | bool | int | wide | float | name => simp [bare]

theorem entries_stand {entries : List Json} {commands : List Command}
    (all : EntriesOf entries commands) (unmarked : ∀ entry ∈ entries, ¬entry.Comment) :
    List.Forall₂ ExprOf entries (commands.map .call) := by
  rw [EntriesOf, List.filter_eq_self.mpr fun entry member => decide_eq_true (unmarked entry member)]
    at all
  rw [List.forall₂_map_right_iff]
  induction all with
  | nil => exact .nil
  | cons stands _ ih =>
    obtain ⟨first, others⟩ := List.forall_mem_cons.mp unmarked
    exact .cons (.call stands first) (ih others)

/-- A guard of null is not an absent guard. -/
theorem bare_guard_ne {fields : List (String × Json)} (absent : fields.lookup ":IF" = none) :
    (Json.object ((":IF", .null) :: fields)).canonical.bare ≠
      (Json.object fields).canonical.bare := by
  intro same
  rw [canonical, canonical, bare, bare, Json.object.injEq] at same
  have under := congrArg (List.lookup ":IF") same
  rw [lookup_bareFields_of_ne (Table.ofList _).increasing (by decide) (by decide),
    lookup_bareFields_of_ne (Table.ofList _).increasing (by decide) (by decide)] at under
  have others : (canonicalFields fields).reverse.lookup ":IF" = none := by
    rw [List.lookup_eq_none_iff] at absent ⊢
    intro field member
    rw [List.mem_reverse, canonicalFields_eq] at member
    obtain ⟨source, there, rfl⟩ := List.mem_map.mp member
    exact absent source there
  change ((Table.ofList _).get? ":IF").map bare = ((Table.ofList _).get? ":IF").map bare at under
  rw [Table.get?_ofList, Table.get?_ofList, canonicalFields, List.reverse_cons, List.lookup_append,
    others] at under
  cases under

/-- Two documents without comments and without integers outside 64 bits are loaded as the same
script just if they are the same but for the order of keys and for idle fields, at every depth. A
guard of null is not idle, and no integer is the same as a float. -/
theorem ofJson_lossless {a b : Json} {s t : Script} (loads : ofJson a.canonical = .ok s)
    (other_loads : ofJson b.canonical = .ok t)
    (unmarked : ∀ entry ∈ a.canonical.items ++ b.canonical.items, ¬entry.Comment)
    (fits : ∀ n, (Json.int n).Within a.canonical ∨ (Json.int n).Within b.canonical →
      ∃ m : Int64, m.toInt = n) :
    (s = t ↔ a.canonical.bare = b.canonical.bare) ∧
    (∀ fields, fields.lookup ":IF" = none →
      (Json.object ((":IF", .null) :: fields)).canonical.bare ≠
        (Json.object fields).canonical.bare) ∧
    ∀ n x, (Json.int n).canonical.bare ≠ (Json.float x).canonical.bare := by
  refine ⟨?_, fun fields => bare_guard_ne, fun n x => nofun⟩
  have plain : Plain a.canonical := ⟨canonical_isCanonical a, fun n there => fits n (.inl there)⟩
  have other_plain : Plain b.canonical :=
    ⟨canonical_isCanonical b, fun n there => fits n (.inr there)⟩
  obtain ⟨entries, listed, all⟩ := ofJson_ok_iff.mp loads
  obtain ⟨others, other_listed, other_all⟩ := ofJson_ok_iff.mp other_loads
  rw [listed, other_listed] at unmarked ⊢
  rw [listed] at plain
  rw [other_listed] at other_plain
  obtain ⟨first, second⟩ := List.forall_mem_append.mp unmarked
  have told : s.commands.map Expr.call = t.commands.map Expr.call ↔
      bareItems entries = bareItems others :=
    each_tells (fun entry member => tells entry (plain.items entry member)) other_plain.items
      (entries_stand all first) (entries_stand other_all second)
  rw [bare, bare, Json.list.injEq, ← told, List.map_inj_right fun _ _ => Expr.call.inj]
  cases s
  cases t
  rw [Script.mk.injEq]

def greeting : Json := .list [.object [("x", .int 4), ("action", .str "print")]]

def idleGreeting : Json :=
  .list [.object [("action", .str "print"), ("args", .list []), (":VAR", .null), ("x", .int 4)]]

/-- Neither the order of keys nor the idle fields make a difference to the script. -/
theorem ofJson_lossless_greeting :
    ∃ s t, ofJson greeting.canonical = .ok s ∧ ofJson idleGreeting.canonical = .ok t ∧ s = t := by
  have unmarked : ∀ entry ∈ greeting.canonical.items ++ idleGreeting.canonical.items,
      ¬entry.Comment := by decide
  have four (n : Int) (within : (Json.int n).Within (.int 4)) : ∃ m : Int64, m.toInt = n := by
    cases within
    exact ⟨4, rfl⟩
  have fits (n : Int) (within : (Json.int n).Within greeting.canonical ∨
      (Json.int n).Within idleGreeting.canonical) : ∃ m : Int64, m.toInt = n := by
    change (Json.int n).Within (.list [.object [("action", .str "print"), ("x", .int 4)]]) ∨
      (Json.int n).Within (.list [.object [(":VAR", .null), ("action", .str "print"),
        ("args", .list []), ("x", .int 4)]]) at within
    simp only [within_list_iff, within_object_iff, reduceCtorEq, List.mem_cons, List.not_mem_nil,
      or_false, exists_eq_or_imp, exists_eq_left, false_or, false_and, exists_false] at within
    rcases within with (other | there) | other | other | there
    · nomatch other
    · exact four n there
    · nomatch other
    · nomatch other
    · exact four n there
  refine ⟨_, _, rfl, rfl, ?_⟩
  exact (ofJson_lossless rfl rfl unmarked fits).1.mpr rfl

example : ofJson (.list [.list [.str "f", .int 4, .float (.ofInt 4)]]) =
    .ok ⟨[.positional "f" [.lit (.int 4), .lit (.float (.ofInt 4))]]⟩ := rfl

end Script

end TickScript
