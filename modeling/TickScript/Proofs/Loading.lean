import TickScript.Proofs.Grammar

/-! Loading a script, against the grammar: comments are left out, the first entry that is neither a
comment nor a command is reported with its place, and what is loaded has no trace of comments at
any depth. -/
namespace TickScript

namespace Script

open Json

def Admissible (entry : Json) : Prop := entry.Comment ∨ IsCommand entry

def FirstFault (entries : List Json) (index : Nat) : Prop :=
  ∃ entry, entries[index]? = some entry ∧ ¬Admissible entry ∧
    ∀ earlier ∈ entries.take index, Admissible earlier

namespace FirstFault

variable {entry : Json} {entries : List Json} {index : Nat}

theorem head (fault : ¬Admissible entry) : FirstFault (entry :: entries) 0 :=
  ⟨entry, rfl, fault, nofun⟩

theorem tail (first : Admissible entry) (fault : FirstFault entries index) :
    FirstFault (entry :: entries) (index + 1) := by
  obtain ⟨found, there, ill, before⟩ := fault
  exact ⟨found, there, ill, List.forall_mem_cons.mpr ⟨first, before⟩⟩

theorem not_all (fault : FirstFault entries index) : ¬∀ entry ∈ entries, Admissible entry := by
  obtain ⟨found, there, ill, -⟩ := fault
  exact fun all => ill (all found (List.mem_of_getElem? there))

/-- There is nothing wrong before the first fault, so no other entry is the first one. -/
theorem not_lt {other : Nat} (first : FirstFault entries index)
    (second : FirstFault entries other) : ¬index < other := by
  intro earlier
  obtain ⟨found, there, ill, -⟩ := first
  obtain ⟨-, -, -, before⟩ := second
  refine ill (before found (List.mem_of_getElem? (i := index) ?_))
  rwa [List.getElem?_take_of_lt earlier]

theorem unique {other : Nat} (first : FirstFault entries index)
    (second : FirstFault entries other) : index = other :=
  Nat.le_antisymm (Nat.le_of_not_lt (not_lt second first)) (Nat.le_of_not_lt (not_lt first second))

theorem of_fault (member : entry ∈ entries) (ill : ¬Admissible entry) :
    ∃ index, FirstFault entries index := by
  induction entries with
  | nil => nomatch member
  | cons first rest ih =>
    by_cases fine : Admissible first
    · have later : entry ∈ rest :=
        (List.mem_cons.mp member).resolve_left fun same => ill (same ▸ fine)
      obtain ⟨index, fault⟩ := ih later
      exact ⟨index + 1, fault.tail fine⟩
    · exact ⟨0, .head fine⟩

end FirstFault

theorem origin_of_mem {α β : Type} {R : α → β → Prop} {sources : List α} {images : List β}
    (all : List.Forall₂ R sources images) {image : β} (member : image ∈ images) :
    ∃ source ∈ sources, R source image := by
  induction all with
  | nil => nomatch member
  | cons related _ ih =>
    cases member with
    | head => exact ⟨_, .head _, related⟩
    | tail _ member =>
      obtain ⟨source, there, related⟩ := ih member
      exact ⟨source, .tail _ there, related⟩

/-- The commands that entries stand for, comments left out. -/
def EntriesOf (entries : List Json) (commands : List Command) : Prop :=
  List.Forall₂ CommandOf (entries.filter fun entry => ¬entry.Comment) commands

namespace EntriesOf

variable {entry : Json} {entries : List Json} {commands : List Command}

theorem comment (marked : entry.Comment) (all : EntriesOf entries commands) :
    EntriesOf (entry :: entries) commands := by
  rwa [EntriesOf, List.filter_cons_of_neg (by simpa using marked)]

theorem command {command : Command} (unmarked : ¬entry.Comment) (stands : CommandOf entry command)
    (all : EntriesOf entries commands) : EntriesOf (entry :: entries) (command :: commands) := by
  rw [EntriesOf, List.filter_cons_of_pos (by simpa using unmarked)]
  exact .cons stands all

theorem origin (all : EntriesOf entries commands) {command : Command}
    (member : command ∈ commands) : ∃ entry, CommandOf entry command ∧ ¬entry.Comment := by
  obtain ⟨entry, listed, stands⟩ := origin_of_mem all member
  exact ⟨entry, stands, by simpa using (List.mem_filter.mp listed).2⟩

theorem unique {also : List Command} (all : EntriesOf entries commands)
    (other : EntriesOf entries also) : commands = also :=
  List.right_unique_forall₂' (R := CommandOf) (fun _ _ _ => commandOf_unique) all other

theorem admissible (all : EntriesOf entries commands) : ∀ entry ∈ entries, Admissible entry := by
  intro entry member
  by_cases marked : entry.Comment
  · exact .inl marked
  · have listed : entry ∈ entries.filter fun entry => ¬entry.Comment :=
      List.mem_filter.mpr ⟨member, decide_eq_true marked⟩
    obtain ⟨command, -, stands⟩ := origin_of_mem all.flip listed
    exact .inr ((isCommand_iff entry).mpr ⟨command, stands⟩)

end EntriesOf

/-- Entries are read to the commands they stand for, or up to the first fault. -/
theorem readEntries_cases (start : Nat) (entries : List Json) :
    (∃ commands, readEntries start entries = .ok commands ∧ EntriesOf entries commands) ∨
    ∃ index cause, readEntries start entries = .error (.badEntry (start + index) cause) ∧
      FirstFault entries index := by
  induction entries generalizing start with
  | nil => exact .inl ⟨[], rfl, .nil⟩
  | cons entry rest ih =>
    rw [readEntries]
    by_cases marked : entry.Comment
    · rw [if_pos ((isComment_iff entry).mpr marked)]
      rcases ih (start + 1) with ⟨commands, read, all⟩ | ⟨index, cause, read, fault⟩
      · exact .inl ⟨commands, read, all.comment marked⟩
      · rw [Nat.add_right_comm] at read
        exact .inr ⟨index + 1, cause, read, fault.tail (.inl marked)⟩
    · rw [if_neg (marked ∘ (isComment_iff entry).mp)]
      cases head : readCommand entry with
      | error cause =>
        refine .inr ⟨0, cause, rfl, .head (not_or.mpr ⟨marked, fun command => ?_⟩)⟩
        obtain ⟨command, stands⟩ := (isCommand_iff entry).mp command
        rw [(readCommand_iff entry command).mpr stands] at head
        nomatch head
      | ok command =>
        have stands := (readCommand_iff entry command).mp head
        have first : Admissible entry := .inr ((isCommand_iff entry).mpr ⟨command, stands⟩)
        rcases ih (start + 1) with ⟨commands, read, all⟩ | ⟨index, cause, read, fault⟩
        · refine .inl ⟨command :: commands, ?_, all.command marked stands⟩
          rw [read]
          rfl
        · rw [Nat.add_right_comm] at read
          refine .inr ⟨index + 1, cause, ?_, fault.tail first⟩
          rw [read]
          rfl

end Script

inductive Command.Nests : Command → Command → Prop
  | self {command : Command} : Nests command command
  | arg {command middle inner : Command} (there : .call middle ∈ command.args)
      (deeper : Nests middle inner) : Nests command inner
  | named {command middle inner : Command} {key : String}
      (there : (key, .call middle) ∈ command.named) (deeper : Nests middle inner) :
      Nests command inner
  | guard {command middle inner : Command} (there : command.guard = some (.call middle))
      (deeper : Nests middle inner) : Nests command inner

/-- A command without the mark of a comment, as its name or as the name of an argument, and with no
named argument under a key that has a meaning of its own. -/
def Command.Unmarked (command : Command) : Prop :=
  command.name ≠ "#" ∧ ∀ arg ∈ command.named, arg.1 ∉ ["#", "action", "args", ":IF", ":VAR"]

namespace Script

open Json

theorem expr_origin {items : List Json} {exprs : List Expr} (all : List.Forall₂ ExprOf items exprs)
    {command : Command} (there : .call command ∈ exprs) :
    ∃ document, CommandOf document command ∧ ¬document.Comment := by
  obtain ⟨item, -, stands⟩ := origin_of_mem all there
  cases stands with
  | call stands unmarked => exact ⟨item, stands, unmarked⟩

theorem guard_origin {found : Option Json} {command : Command}
    (guarded : Option.Rel ExprOf found (some (.call command))) :
    ∃ document, CommandOf document command ∧ ¬document.Comment := by
  cases guarded with
  | some stands =>
    cases stands with
    | call stands unmarked => exact ⟨_, stands, unmarked⟩

/-- Every nested command comes from a document that is not marked as a comment. -/
theorem nested_origin {command inner : Command} (nests : command.Nests inner) {document : Json}
    (stands : CommandOf document command) (unmarked : ¬document.Comment) :
    ∃ document, CommandOf document inner ∧ ¬document.Comment := by
  induction nests generalizing document with
  | self => exact ⟨document, stands, unmarked⟩
  | arg there _ ih =>
    cases stands with
    | list all | object _ _ all =>
      obtain ⟨origin, stands, unmarked⟩ := expr_origin all there
      exact ih stands unmarked
  | named there _ ih =>
    cases stands with
    | list => nomatch there
    | object _ _ _ _ _ _ values =>
      obtain ⟨origin, stands, unmarked⟩ := expr_origin values (List.mem_map_of_mem there)
      exact ih stands unmarked
  | guard there _ ih =>
    cases stands with
    | list => nomatch there
    | object _ _ _ guarded =>
      cases there
      obtain ⟨origin, stands, unmarked⟩ := guard_origin guarded
      exact ih stands unmarked

theorem unmarked_of {document : Json} {command : Command} (stands : CommandOf document command)
    (unmarked : ¬document.Comment) : command.Unmarked := by
  cases stands with
  | list =>
    refine ⟨?_, nofun⟩
    rintro rfl
    exact unmarked .list
  | @object fields _ _ _ named _ _ action _ _ _ _ keys _ =>
    refine ⟨?_, ?_⟩
    · rintro rfl
      exact unmarked (.action action)
    · intro arg member
      have key : arg.1 ∈ (params fields).map Prod.fst := keys ▸ List.mem_map_of_mem member
      obtain ⟨field, kept, same⟩ := List.mem_map.mp key
      obtain ⟨there, plain⟩ := List.mem_filter.mp kept
      rw [← same, List.mem_cons, not_or]
      refine ⟨fun mark => ?_, of_decide_eq_true plain⟩
      have listed : (fields.lookup "#").isSome :=
        List.lookup_isSome_iff.mpr ⟨field, there, beq_iff_eq.mpr mark.symm⟩
      obtain ⟨value, found⟩ := Option.isSome_iff_exists.mp listed
      exact unmarked (.key found)

theorem ofJson_list (entries : List Json) :
    (∃ script, ofJson (.list entries) = .ok script ∧ EntriesOf entries script.commands) ∨
    ∃ index cause, ofJson (.list entries) = .error (.badEntry index cause) ∧
      FirstFault entries index := by
  rw [ofJson]
  rcases readEntries_cases 0 entries with ⟨commands, read, all⟩ | ⟨index, cause, read, fault⟩
  · rw [read]
    exact .inl ⟨⟨commands⟩, rfl, all⟩
  · rw [read, Nat.zero_add]
    exact .inr ⟨index, cause, rfl, fault⟩

theorem ofJson_notAnArray_iff {document : Json} {found : Json.Kind} :
    ofJson document = .error (.notAnArray found) ↔
      document.list? = none ∧ found = document.kind := by
  cases document with
  | list entries =>
    rcases ofJson_list entries with ⟨script, read, -⟩ | ⟨index, cause, read, -⟩ <;>
      simp [read, Json.list?]
  | null | bool | int | float | str | object => simp [ofJson, Json.list?, eq_comm]

theorem ofJson_badEntry_iff {document : Json} {index : Nat} :
    (∃ cause, ofJson document = .error (.badEntry index cause)) ↔
      ∃ entries, document = .list entries ∧ FirstFault entries index := by
  constructor
  · rintro ⟨cause, failed⟩
    cases document with
    | list entries =>
      rcases ofJson_list entries with ⟨script, read, -⟩ | ⟨index, cause, read, fault⟩
      · rw [read] at failed
        nomatch failed
      · rw [read] at failed
        cases failed
        exact ⟨entries, rfl, fault⟩
    | null | bool | int | float | str | object => nomatch failed
  · rintro ⟨entries, rfl, fault⟩
    rcases ofJson_list entries with ⟨script, -, all⟩ | ⟨other, cause, read, first⟩
    · exact absurd all.admissible fault.not_all
    · rw [fault.unique first]
      exact ⟨cause, read⟩

theorem ofJson_ok_iff {document : Json} {script : Script} :
    ofJson document = .ok script ↔
      ∃ entries, document = .list entries ∧ EntriesOf entries script.commands := by
  constructor
  · intro loaded
    cases document with
    | list entries =>
      rcases ofJson_list entries with ⟨script, read, all⟩ | ⟨index, cause, read, -⟩
      · rw [read] at loaded
        cases loaded
        exact ⟨entries, rfl, all⟩
      · rw [read] at loaded
        nomatch loaded
    | null | bool | int | float | str | object => nomatch loaded
  · rintro ⟨entries, rfl, all⟩
    rcases ofJson_list entries with ⟨other, read, also⟩ | ⟨index, cause, -, fault⟩
    · rw [read, Except.ok.injEq]
      exact congrArg Script.mk (also.unique all)
    · exact absurd all.admissible fault.not_all

theorem ofJson_fails_iff {document : Json} :
    (∃ index cause, ofJson document = .error (.badEntry index cause)) ↔
      ∃ entries, document = .list entries ∧ ∃ entry ∈ entries, ¬Admissible entry := by
  simp only [ofJson_badEntry_iff]
  constructor
  · rintro ⟨index, entries, listed, entry, there, ill, -⟩
    exact ⟨entries, listed, entry, List.mem_of_getElem? there, ill⟩
  · rintro ⟨entries, listed, entry, member, ill⟩
    obtain ⟨index, fault⟩ := FirstFault.of_fault member ill
    exact ⟨index, entries, listed, fault⟩

/-- A list is loaded just if each of its entries is a comment or a command. -/
theorem ofJson_loads_iff {document : Json} :
    (∃ script, ofJson document = .ok script) ↔
      ∃ entries, document = .list entries ∧ ∀ entry ∈ entries, Admissible entry := by
  constructor
  · rintro ⟨script, loaded⟩
    obtain ⟨entries, listed, all⟩ := ofJson_ok_iff.mp loaded
    exact ⟨entries, listed, all.admissible⟩
  · rintro ⟨entries, rfl, each⟩
    rcases ofJson_list entries with ⟨script, read, -⟩ | ⟨index, cause, -, fault⟩
    · exact ⟨script, read⟩
    · exact absurd each fault.not_all

/-- The loader accepts its grammar and nothing else. It names the first entry outside the grammar by
its place among all entries, and what it loads has no trace of a comment at any depth. -/
theorem ofJson_grammar (document : Json) :
    (∀ found, ofJson document = .error (.notAnArray found) ↔
      document.list? = none ∧ found = document.kind) ∧
    ((∃ index cause, ofJson document = .error (.badEntry index cause)) ↔
      ∃ entries, document = .list entries ∧ ∃ entry ∈ entries, ¬Admissible entry) ∧
    (∀ index, (∃ cause, ofJson document = .error (.badEntry index cause)) ↔
      ∃ entries, document = .list entries ∧ FirstFault entries index) ∧
    ((∃ script, ofJson document = .ok script) ↔
      ∃ entries, document = .list entries ∧ ∀ entry ∈ entries, Admissible entry) ∧
    (∀ script, ofJson document = .ok script ↔
      ∃ entries, document = .list entries ∧ EntriesOf entries script.commands) ∧
    ∀ script, ofJson document = .ok script →
      ∀ command ∈ script.commands, ∀ inner, command.Nests inner → inner.Unmarked := by
  refine ⟨fun found => ofJson_notAnArray_iff, ofJson_fails_iff,
    fun index => ofJson_badEntry_iff, ofJson_loads_iff, fun script => ofJson_ok_iff, ?_⟩
  intro script loaded command member inner nests
  obtain ⟨entries, -, all⟩ := ofJson_ok_iff.mp loaded
  obtain ⟨entry, stands, unmarked⟩ := all.origin member
  obtain ⟨origin, stands, unmarked⟩ := nested_origin nests stands unmarked
  exact unmarked_of stands unmarked

example : ofJson (.list [.list [.str "#", .null], .list [.str "wait"], .list []]) =
    .error (.badEntry 2 .emptyList) := rfl

end Script

end TickScript
