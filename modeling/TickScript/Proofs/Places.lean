import Mathlib.Data.List.Lex
import Mathlib.Data.List.Nodup
import Mathlib.Data.Prod.Basic
import TickScript.Script.Names

/-! Where the commands of a script stand, and in which order their names are listed. A place is
an entry and a way down from it, through arguments, named arguments and guards. The list of
command names holds every name that is used at some place once, in the order of the places
where the names are used first, and no other list does. -/
namespace TickScript

namespace Command

inductive Slot
  | arg (index : Nat)
  | named (index : Nat)
  | guard

/-- Arguments come before named arguments, and the guard comes last. -/
inductive Slot.Before : Slot → Slot → Prop
  | args {i j} (less : i < j) : Before (.arg i) (.arg j)
  | argNamed {i j} : Before (.arg i) (.named j)
  | argGuard {i} : Before (.arg i) .guard
  | named {i j} (less : i < j) : Before (.named i) (.named j)
  | namedGuard {i} : Before (.named i) .guard

instance : Std.Asymm Slot.Before where
  asymm first second before after := by
    cases before <;> cases after <;> omega

/-- The order of the ways down from one command: the command itself comes before what is nested in
it, and what is nested comes slot by slot. -/
def WayBefore : List Slot → List Slot → Prop := List.Lex Slot.Before

instance : Std.Asymm WayBefore := List.Lex.asymm Slot.Before

def expr? (command : Command) : Slot → Option Expr
  | .arg index => command.args[index]?
  | .named index => (command.named[index]?).map Prod.snd
  | .guard => command.guard

/-- The command to which a way leads, slot by slot from this one down. -/
def nested? (command : Command) : List Slot → Option Command
  | [] => some command
  | slot :: way =>
    match command.expr? slot with
    | some (.call nested) => nested.nested? way
    | _ => none

/-- A way leads to a command of this name. -/
def Uses (command : Command) (way : List Slot) (name : String) : Prop :=
  ∃ nested, command.nested? way = some nested ∧ nested.name = name

end Command

def Expr.Uses (expr : Expr) (way : List Command.Slot) (name : String) : Prop :=
  ∃ command, expr = .call command ∧ command.Uses way name

namespace Script

abbrev Place := Nat × List Command.Slot

def Place.Before : Place → Place → Prop := Prod.Lex (· < ·) Command.WayBefore

instance : Std.Asymm Place.Before where
  asymm place other before after := by
    rcases Prod.lex_iff.mp before with less | ⟨same, way⟩ <;>
      rcases Prod.lex_iff.mp after with more | ⟨also, back⟩
    · exact Nat.lt_asymm less more
    · exact Nat.ne_of_gt less also
    · exact Nat.ne_of_gt more same
    · exact Std.Asymm.asymm _ _ way back

/-- A command of this name stands at a place. -/
def Uses (script : Script) (place : Place) (name : String) : Prop :=
  ∃ command, script.get? place.1 = some command ∧ command.Uses place.2 name

end Script

section Places

variable {ρ τ ι : Type} {before : ρ → ρ → Prop} {uses others : ρ → String → Prop}
  {names more : List String}

def FirstUse (before : ρ → ρ → Prop) (uses : ρ → String → Prop) (name : String) (place : ρ) :
    Prop :=
  uses place name ∧ ∀ other, uses other name → other = place ∨ before place other

theorem FirstUse.unique [Std.Asymm before] {name : String} {place other : ρ}
    (first : FirstUse before uses name place) (also : FirstUse before uses name other) :
    other = place := by
  rcases first.2 other also.1 with same | less
  · exact same
  rcases also.2 place first.1 with same | more
  · exact same.symm
  · exact absurd more (Std.Asymm.asymm _ _ less)

/-- One name is used first, the other only later. -/
def UsedEarlier (before : ρ → ρ → Prop) (uses : ρ → String → Prop) (name next : String) : Prop :=
  ∃ place later, FirstUse before uses name place ∧ FirstUse before uses next later ∧
    before place later

theorem UsedEarlier.asymm [Std.Asymm before] {name next : String}
    (earlier : UsedEarlier before uses name next) : ¬ UsedEarlier before uses next name := by
  obtain ⟨place, later, first, second, less⟩ := earlier
  rintro ⟨_, _, again, once, more⟩
  rw [second.unique again, first.unique once] at more
  exact Std.Asymm.asymm _ _ less more

/-- Every name that is used, once and in the order of first uses. -/
structure Lists (before : ρ → ρ → Prop) (uses : ρ → String → Prop) (names : List String) :
    Prop where
  nodup : names.Nodup
  mem_iff : ∀ name, name ∈ names ↔ ∃ place, uses place name
  ordered : names.Pairwise (UsedEarlier before uses)

theorem Lists.unique [Std.Asymm before] (lists : Lists before uses names)
    (also : Lists before uses more) : names = more := by
  have same : names.Perm more := by
    refine (List.perm_ext_iff_of_nodup lists.nodup also.nodup).mpr fun name => ?_
    rw [lists.mem_iff, also.mem_iff]
  exact same.eq_of_pairwise (fun _ _ _ _ earlier later => absurd later earlier.asymm)
    lists.ordered also.ordered

/-- The names in the order of their places: one for every use, with repetitions. -/
def Charted (before : ρ → ρ → Prop) (uses : ρ → String → Prop) (names : List String) : Prop :=
  ∃ stops : List (ρ × String), stops.map Prod.snd = names ∧
    stops.Pairwise (fun stop next => before stop.1 next.1) ∧
    ∀ place name, (place, name) ∈ stops ↔ uses place name

namespace Charted

theorem nil (unused : ∀ place name, ¬ uses place name) : Charted before uses [] :=
  ⟨[], rfl, .nil, fun place name => iff_of_false List.not_mem_nil (unused place name)⟩

theorem single (place : ρ) (name : String) :
    Charted before (fun other used => other = place ∧ used = name) [name] :=
  ⟨[(place, name)], rfl, List.pairwise_singleton _ _, by simp⟩

theorem append (charted : Charted before uses names) (following : Charted before others more)
    (apart : ∀ place name later next, uses place name → others later next → before place later) :
    Charted before (fun place name => uses place name ∨ others place name) (names ++ more) := by
  obtain ⟨stops, rfl, ordered, stop_iff⟩ := charted
  obtain ⟨rest, rfl, follow, rest_iff⟩ := following
  refine ⟨stops ++ rest, List.map_append, ?_, ?_⟩
  · refine List.pairwise_append.mpr ⟨ordered, follow, ?_⟩
    intro stop member next later
    exact apart _ _ _ _ ((stop_iff stop.1 stop.2).mp member) ((rest_iff next.1 next.2).mp later)
  · intro place name
    rw [List.mem_append, stop_iff, rest_iff]

/-- Places may be moved together, as long as their order is kept. -/
theorem map (beyond : τ → τ → Prop) (move : ρ → τ)
    (keeps : ∀ place later, before place later → beyond (move place) (move later))
    (charted : Charted before uses names) :
    Charted beyond (fun place name => ∃ origin, move origin = place ∧ uses origin name) names := by
  obtain ⟨stops, rfl, ordered, stop_iff⟩ := charted
  refine ⟨stops.map fun stop => (move stop.1, stop.2), ?_, ?_, ?_⟩
  · rw [List.map_map]
    rfl
  · exact List.pairwise_map.mpr (ordered.imp fun less => keeps _ _ less)
  · intro place name
    simp only [List.mem_map, Prod.exists, Prod.mk.injEq, ← stop_iff]
    constructor
    · rintro ⟨origin, used, member, rfl, rfl⟩
      exact ⟨origin, rfl, member⟩
    · rintro ⟨origin, rfl, member⟩
      exact ⟨origin, name, member, rfl, rfl⟩

theorem congr (charted : Charted before uses names)
    (same : ∀ place name, others place name ↔ uses place name) : Charted before others names := by
  obtain ⟨stops, listed, ordered, stop_iff⟩ := charted
  refine ⟨stops, listed, ordered, fun place name => ?_⟩
  rw [stop_iff, same]

end Charted

/-- A name is used at a place within one of some items, the one with the index. -/
def UsesAmong (uses : ι → ρ → String → Prop) (items : List ι) (place : Nat × ρ) (name : String) :
    Prop :=
  ∃ item, items[place.1]? = some item ∧ uses item place.2 name

namespace Charted

variable {each : ι → ρ → String → Prop}

theorem items_nil : Charted (Prod.Lex (· < ·) before) (UsesAmong each []) [] :=
  nil (by simp [UsesAmong])

theorem items_cons {item : ι} {rest : List ι} (head : Charted before (each item) names)
    (tail : Charted (Prod.Lex (· < ·) before) (UsesAmong each rest) more) :
    Charted (Prod.Lex (· < ·) before) (UsesAmong each (item :: rest)) (names ++ more) := by
  have first := head.map (Prod.Lex (· < ·) before) (fun place => (0, place))
    fun _ _ less => .right 0 less
  have later := tail.map (Prod.Lex (· < ·) before) (fun place => (place.1 + 1, place.2)) <| by
    intro place other less
    rw [Prod.lex_iff] at less ⊢
    exact less.imp Nat.succ_lt_succ fun ⟨same, less⟩ => ⟨congrArg Nat.succ same, less⟩
  refine (first.append later ?_).congr ?_
  · rintro _ _ _ _ ⟨place, rfl, _⟩ ⟨other, rfl, _⟩
    exact .left _ _ (Nat.succ_pos _)
  · rintro ⟨index, place⟩ name
    cases index with
    | zero => simp [UsesAmong]
    | succ index => simp [UsesAmong]

end Charted

end Places

namespace Command

theorem uses_nil {command : Command} {name : String} :
    command.Uses [] name ↔ name = command.name := by
  simp [Uses, nested?, eq_comm]

theorem uses_cons {command : Command} {slot : Slot} {way : List Slot} {name : String} :
    command.Uses (slot :: way) name ↔
      ∃ expr, command.expr? slot = some expr ∧ expr.Uses way name := by
  simp only [Uses, nested?, Expr.Uses]
  cases command.expr? slot with
  | none => simp
  | some expr => cases expr <;> simp

theorem walk_eq (command : Command) :
    command.walk = command.name :: (Expr.walkAll command.args ++ Expr.walkNamed command.named ++
      Expr.walkGuard command.guard) := by
  cases command with
  | positional name args =>
    simp [walk, Command.name, Command.args, Command.named, Command.guard, Expr.walkNamed,
      Expr.walkGuard]
  | keyword => rfl

/-- Expressions are charted in the command as they are among themselves. -/
theorem charted_inSlots {exprs : List Expr} {names : List String} (slot : Nat → Slot)
    (increases : ∀ i j, i < j → (slot i).Before (slot j))
    (charted : Charted Script.Place.Before (UsesAmong Expr.Uses exprs) names) :
    Charted WayBefore (fun way name => ∃ place : Script.Place, slot place.1 :: place.2 = way ∧
      UsesAmong Expr.Uses exprs place name) names := by
  refine charted.map WayBefore (fun place => slot place.1 :: place.2) ?_
  rintro ⟨i, way⟩ ⟨j, other⟩ less
  cases less with
  | left _ _ less => exact .rel (increases i j less)
  | right _ less => exact .cons less

/-- The parts of a command come after the command itself and one after the other, as in a walk. -/
theorem charted_of_parts {command : Command}
    (args : Charted Script.Place.Before (UsesAmong Expr.Uses command.args)
      (Expr.walkAll command.args))
    (named : Charted Script.Place.Before (UsesAmong Expr.Uses (command.named.map Prod.snd))
      (Expr.walkNamed command.named))
    (guard : Charted WayBefore
      (fun way name => ∃ expr, command.guard = some expr ∧ expr.Uses way name)
      (Expr.walkGuard command.guard)) :
    Charted WayBefore command.Uses command.walk := by
  have inArgs := charted_inSlots .arg (fun _ _ less => .args less) args
  have inNamed := charted_inSlots .named (fun _ _ less => .named less) named
  have inGuard := guard.map WayBefore (fun way => .guard :: way) fun _ _ less => .cons less
  have nested := (inArgs.append inNamed ?_).append inGuard ?_
  · rw [walk_eq]
    refine ((Charted.single [] command.name).append nested ?_).congr ?_
    · rintro _ _ _ _ ⟨rfl, _⟩ ((⟨_, rfl, _⟩ | ⟨_, rfl, _⟩) | ⟨_, rfl, _⟩) <;> exact .nil
    · intro way name
      cases way with
      | nil => simp [uses_nil]
      | cons slot way => cases slot <;> simp [uses_cons, expr?, UsesAmong]
  · rintro _ _ _ _ ⟨_, rfl, _⟩ ⟨_, rfl, _⟩
    exact .rel .argNamed
  · rintro _ _ _ _ (⟨_, rfl, _⟩ | ⟨_, rfl, _⟩) ⟨_, rfl, _⟩
    · exact .rel .argGuard
    · exact .rel .namedGuard

end Command

mutual

/-- A walk through a command meets each of its places once, and in their order. -/
theorem Command.walk_charted (command : Command) :
    Charted Command.WayBefore command.Uses command.walk := by
  cases command with
  | positional name args =>
    exact Command.charted_of_parts (Expr.walkAll_charted args) .items_nil
      (.nil (by simp [Command.guard]))
  | keyword name args named guard binding =>
    exact Command.charted_of_parts (Expr.walkAll_charted args) (Expr.walkNamed_charted named)
      (Expr.walkGuard_charted guard)

theorem Expr.walk_charted (expr : Expr) : Charted Command.WayBefore expr.Uses expr.walk := by
  cases expr with
  | call command =>
    refine (Command.walk_charted command).congr fun way name => ?_
    simp [Expr.Uses]
  | lit _ | name _ => exact .nil (by simp [Expr.Uses])

theorem Expr.walkAll_charted (exprs : List Expr) :
    Charted Script.Place.Before (UsesAmong Expr.Uses exprs) (Expr.walkAll exprs) := by
  cases exprs with
  | nil => exact .items_nil
  | cons expr rest => exact (Expr.walk_charted expr).items_cons (Expr.walkAll_charted rest)

theorem Expr.walkNamed_charted (named : List (String × Expr)) :
    Charted Script.Place.Before (UsesAmong Expr.Uses (named.map Prod.snd))
      (Expr.walkNamed named) := by
  cases named with
  | nil => exact .items_nil
  | cons entry rest =>
    obtain ⟨name, expr⟩ := entry
    exact (Expr.walk_charted expr).items_cons (Expr.walkNamed_charted rest)

theorem Expr.walkGuard_charted (guard : Option Expr) :
    Charted Command.WayBefore (fun way name => ∃ expr, guard = some expr ∧ expr.Uses way name)
      (Expr.walkGuard guard) := by
  cases guard with
  | none => exact .nil (by simp)
  | some guard => exact (Expr.walk_charted guard).congr (by simp)

end

namespace Script

/-- A walk through a script meets each of its places once, and in their order. -/
theorem walk_charted (script : Script) :
    Charted Place.Before script.Uses (script.commands.flatMap Command.walk) := by
  obtain ⟨commands⟩ := script
  induction commands with
  | nil => exact .items_nil
  | cons command rest ih => exact (Command.walk_charted command).items_cons ih

section Kept

variable {ρ : Type} {before : ρ → ρ → Prop} {uses : ρ → String → Prop}
  {done left kept : List (ρ × String)} {names : List String}

/-- What is kept of the stops so far: for every name the first of them. -/
structure Keeps (before : ρ → ρ → Prop) (done kept : List (ρ × String)) : Prop where
  sublist : kept.Sublist done
  nodup : (kept.map Prod.snd).Nodup
  first : ∀ stop ∈ done, ∃ head ∈ kept,
    head.2 = stop.2 ∧ (stop.1 = head.1 ∨ before head.1 stop.1)

theorem Keeps.again {stop : ρ × String} (keeps : Keeps before done kept)
    (later : ∀ earlier ∈ done, before earlier.1 stop.1) (known : stop.2 ∈ kept.map Prod.snd) :
    Keeps before (done ++ [stop]) kept where
  sublist := keeps.sublist.trans (List.sublist_append_left ..)
  nodup := keeps.nodup
  first other member := by
    rcases List.mem_append.mp member with earlier | last
    · exact keeps.first other earlier
    · obtain rfl := List.mem_singleton.mp last
      obtain ⟨head, there, same⟩ := List.mem_map.mp known
      exact ⟨head, there, same, .inr (later head (keeps.sublist.subset there))⟩

theorem Keeps.more {stop : ρ × String} (keeps : Keeps before done kept)
    (unknown : stop.2 ∉ kept.map Prod.snd) :
    Keeps before (done ++ [stop]) (kept ++ [stop]) where
  sublist := keeps.sublist.append (.refl _)
  nodup := by
    rw [List.map_append]
    refine List.nodup_append.mpr ⟨keeps.nodup, List.nodup_singleton _, ?_⟩
    rintro name here other there rfl
    exact unknown (List.mem_singleton.mp there ▸ here)
  first other member := by
    rcases List.mem_append.mp member with earlier | last
    · obtain ⟨head, there, same⟩ := keeps.first other earlier
      exact ⟨head, List.mem_append_left _ there, same⟩
    · obtain rfl := List.mem_singleton.mp last
      exact ⟨other, List.mem_append_right _ last, rfl, .inl rfl⟩

theorem Keeps.next {stop : ρ × String} (keeps : Keeps before done kept)
    (later : ∀ earlier ∈ done, before earlier.1 stop.1) :
    ∃ now, Keeps before (done ++ [stop]) now ∧
      now.map Prod.snd = addNames (kept.map Prod.snd) [stop.2] := by
  by_cases known : stop.2 ∈ kept.map Prod.snd
  · exact ⟨kept, keeps.again later known, by simp [addNames, known]⟩
  · exact ⟨kept ++ [stop], keeps.more known, by simp [addNames, known]⟩

/-- The names listed along a walk are those of the stops kept, from wherever it goes on. -/
theorem Keeps.walk (keeps : Keeps before done kept)
    (ordered : (done ++ left).Pairwise fun stop next => before stop.1 next.1) :
    ∃ now, Keeps before (done ++ left) now ∧
      now.map Prod.snd = addNames (kept.map Prod.snd) (left.map Prod.snd) := by
  induction left generalizing done kept with
  | nil => exact ⟨kept, by simpa using keeps, rfl⟩
  | cons stop rest ih =>
    have later : ∀ earlier ∈ done, before earlier.1 stop.1 := fun earlier member =>
      (List.pairwise_append.mp ordered).2.2 earlier member stop List.mem_cons_self
    obtain ⟨now, next, same⟩ := keeps.next later
    rw [List.append_cons] at ordered ⊢
    obtain ⟨last, walked, names⟩ := ih next ordered
    refine ⟨last, walked, names.trans ?_⟩
    rw [same]
    rfl

theorem Keeps.firstUse (keeps : Keeps before done kept) {stop : ρ × String}
    (member : stop ∈ kept) :
    FirstUse before (fun place name => (place, name) ∈ done) stop.2 stop.1 := by
  refine ⟨keeps.sublist.subset member, fun other used => ?_⟩
  obtain ⟨head, there, same, less⟩ := keeps.first _ used
  obtain rfl : head = stop := List.inj_on_of_nodup_map keeps.nodup there member same
  exact less

/-- What is listed of names in the order of their places. -/
theorem addNames_lists (charted : Charted before uses names) :
    Lists before uses (addNames [] names) := by
  obtain ⟨stops, rfl, ordered, stop_iff⟩ := charted
  -- The list that is added to is known only through the stops whose names are on it.
  have start : Keeps before [] ([] : List (ρ × String)) :=
    ⟨.refl _, .nil, fun _ member => absurd member List.not_mem_nil⟩
  obtain ⟨kept, keeps, same⟩ := start.walk ordered
  obtain rfl : (fun place name => (place, name) ∈ stops) = uses :=
    funext fun place => funext fun name => propext (stop_iff place name)
  refine ⟨same ▸ keeps.nodup, fun name => ?_, ?_⟩
  · simp [mem_addNames]
  · rw [← List.map_nil, ← same, List.pairwise_map]
    refine (ordered.sublist keeps.sublist).imp_of_mem fun here there less => ?_
    exact ⟨_, _, keeps.firstUse here, keeps.firstUse there, less⟩

end Kept

theorem commandNames_lists (script : Script) :
    Lists Place.Before script.Uses script.commandNames := by
  have listed := addNames_lists script.walk_charted
  rwa [addNames, List.foldl_flatMap] at listed

/-- The list of command names has no name twice, holds just the names of commands that stand at some
place, and lists them in the order of their first places; it is the only such list. -/
theorem eq_commandNames_iff (script : Script) (names : List String) :
    names = script.commandNames ↔
      names.Nodup ∧ (∀ name, name ∈ names ↔ ∃ place, script.Uses place name) ∧
        names.Pairwise fun name next => ∃ place later,
          FirstUse Place.Before script.Uses name place ∧
            FirstUse Place.Before script.Uses next later ∧ place.Before later := by
  constructor
  · rintro rfl
    obtain ⟨nodup, mem_iff, ordered⟩ := script.commandNames_lists
    exact ⟨nodup, mem_iff, ordered⟩
  · rintro ⟨nodup, mem_iff, ordered⟩
    exact Lists.unique ⟨nodup, mem_iff, ordered⟩ script.commandNames_lists

example : commandNames ⟨[
    .keyword "log" [.call (.positional "sum" [.call (.positional "now" [])])]
      [("by", .call (.positional "user" []))] (some (.call (.positional "known" []))) none,
    .positional "now" [.call (.positional "log" [])],
    .positional "wait" []]⟩ = ["log", "sum", "now", "user", "known", "wait"] := by decide

end Script

end TickScript
