import TickScript.Proofs.Numbering
import Mathlib.Data.List.Chain

/-! What becomes of the commands that are started. A nested command is started and resumed
on the spot. At the top level one command at a time is held, which is resumed until it
gives a final answer. From this order of things it follows how often each is resumed. -/
namespace TickScript

/-- What is done with started commands, which are known by their numbers. Those at the top level
stand at an index of the script. -/
inductive Deed
  | nested (id : Nat) (answer : Except Fault Resume)
  | started (index id : Nat)
  | resumed (index id : Nat) (answer : Except Fault Resume)

def isFinal : Except Fault Resume → Bool
  | .ok .declined | .ok (.done _) => true
  | .ok .unfinished | .error _ => false

namespace Deed

def id : Deed → Nat
  | nested id _ | started _ id | resumed _ id _ => id

def entries : Deed → List Entry
  | nested id answer => [.began id, .resumed id answer]
  | started _ id => [.began id]
  | resumed _ id answer => [.resumed id answer]

/-- The move of a step by which a deed is done, if it concerns the top level. -/
def move? : Deed → Option Move
  | nested .. => none
  | started index _ => some (.started index)
  | resumed index _ answer => some (.resumed index answer)

def isTop (deed : Deed) : Bool := deed.move?.isSome

def begins : Deed → Bool
  | nested .. | started .. => true
  | resumed .. => false

def isLast : Deed → Bool
  | nested .. => true
  | started .. => false
  | resumed _ _ answer => isFinal answer

def holds? : Deed → Option (Nat × Nat)
  | nested .. => none
  | started index id => some (index, id)
  | resumed index id answer => if isFinal answer then none else some (index, id)

/-- A deed at the top level where a command is held, or none: what is held is resumed, and another
command is started only if nothing is held. -/
def Takes (held : Option (Nat × Nat)) (deed : Deed) : Prop :=
  match held with
  | some (index, id) => ∃ answer, deed = resumed index id answer
  | none => ∃ index id, deed = started index id

def place? : Deed → Option (Nat × Nat)
  | nested .. => none
  | started index id | resumed index id _ => some (index, id)

def resumed? : Deed → Option Nat
  | resumed _ id _ => some id
  | _ => none

/-- What a deed has to do with one that comes later. -/
structure Precedes (earlier later : Deed) : Prop where
  /-- A command that is started gets a number of its own. -/
  fresh : later.begins → later.id ≠ earlier.id
  /-- Nothing is done with a command that has been let go of. -/
  settled : earlier.isLast → later.id ≠ earlier.id
  /-- A command stands at one index. -/
  stays : ∀ place ∈ earlier.place?, ∀ other ∈ later.place?, place.2 = other.2 → place.1 = other.1

theorem place?_id {deed : Deed} {place : Nat × Nat} (there : place ∈ deed.place?) :
    place.2 = deed.id := by
  cases deed <;> cases there <;> rfl

/-- A deed with a later number is about another command. -/
theorem Precedes.of_lt {earlier later : Deed} (less : earlier.id < later.id) :
    earlier.Precedes later := by
  have different : later.id ≠ earlier.id := Nat.ne_of_gt less
  refine ⟨fun _ => different, fun _ => different, ?_⟩
  intro place there other also same
  rw [place?_id there, place?_id also] at same
  exact absurd same.symm different

end Deed

/-- The number of the next command, and the index and the number of the one that is held. -/
structure Custody where
  next : Nat
  held : Option (Nat × Nat)

def Custody.Issued (custody : Custody) : Prop := ∀ held ∈ custody.held, held.2 < custody.next

/-- One deed after the other, from a custody to another. -/
inductive Orderly (first : Custody) : List Deed → Custody → Prop
  | nothing : Orderly first [] first
  | nested {deeds next held} (answer : Except Fault Resume)
      (before : Orderly first deeds ⟨next, held⟩) :
      Orderly first (deeds ++ [.nested next answer]) ⟨next + 1, held⟩
  | started {deeds next} (index : Nat) (before : Orderly first deeds ⟨next, none⟩) :
      Orderly first (deeds ++ [.started index next]) ⟨next + 1, some (index, next)⟩
  | resumed {deeds next index id} (answer : Except Fault Resume)
      (before : Orderly first deeds ⟨next, some (index, id)⟩) :
      Orderly first (deeds ++ [.resumed index id answer])
        ⟨next, if isFinal answer then none else some (index, id)⟩

/-- The discipline of deeds, and the command that they leave held, if any: what is held is the next
to be resumed at the top level, and it is let go of by its final answer. -/
structure Disciplined (deeds : List Deed) (held : Option (Nat × Nat)) : Prop where
  apart : deeds.Pairwise Deed.Precedes
  next : (deeds.filter Deed.isTop).IsChain fun deed next => next.Takes deed.holds?
  held : (deeds.filter Deed.isTop).getLast?.bind Deed.holds? = held

structure Deed.Past (deed : Deed) (custody : Custody) : Prop where
  given : deed.id < custody.next
  released : deed.isLast → ∀ held ∈ custody.held, held.2 ≠ deed.id
  stays : ∀ place ∈ deed.place?, ∀ held ∈ custody.held, place.2 = held.2 → place.1 = held.1

namespace Orderly

variable {first middle last : Custody} {deeds others : List Deed}

theorem trans (before : Orderly first deeds middle) (after : Orderly middle others last) :
    Orderly first (deeds ++ others) last := by
  induction after with
  | nothing => simpa using before
  | nested answer _ ih => simpa only [List.append_assoc] using ih.nested answer
  | started index _ ih => simpa only [List.append_assoc] using ih.started index
  | resumed answer _ ih => simpa only [List.append_assoc] using ih.resumed answer

/-- By induction on the deeds: whatever is done next concerns a new command or the one that is held,
and what has been let go of is neither. -/
theorem apart (orderly : Orderly first deeds last) (issued : first.Issued) :
    last.Issued ∧ (∀ deed ∈ deeds, deed.Past last) ∧ deeds.Pairwise Deed.Precedes := by
  induction orderly with
  | nothing => exact ⟨issued, nofun, .nil⟩
  | @nested deeds next held answer before ih =>
    obtain ⟨issued, past, apart⟩ := ih
    refine ⟨fun held member => Nat.lt_succ_of_lt (issued held member), forall_snoc ?_ ?_,
      pairwise_snoc apart fun deed member => .of_lt (past deed member).given⟩
    · intro deed member
      obtain ⟨given, released, stays⟩ := past deed member
      exact ⟨Nat.lt_succ_of_lt given, released, stays⟩
    · exact ⟨Nat.lt_succ_self _, fun _ held member => Nat.ne_of_lt (issued held member), nofun⟩
  | @started deeds next index before ih =>
    obtain ⟨issued, past, apart⟩ := ih
    refine ⟨?_, forall_snoc ?_ ?_,
      pairwise_snoc apart fun deed member => .of_lt (past deed member).given⟩
    · rintro held ⟨⟩
      exact Nat.lt_succ_self _
    · intro deed member
      have older : next ≠ deed.id := Nat.ne_of_gt (past deed member).given
      refine ⟨Nat.lt_succ_of_lt (past deed member).given, ?_, ?_⟩
      · rintro _ held ⟨⟩
        exact older
      · rintro place there held ⟨⟩ same
        exact absurd (same.symm.trans (Deed.place?_id there)) older
    · refine ⟨Nat.lt_succ_self _, nofun, ?_⟩
      rintro place ⟨⟩ held ⟨⟩ _
      rfl
  | @resumed deeds next index id answer before ih =>
    obtain ⟨issued, past, apart⟩ := ih
    have precedes : ∀ deed ∈ deeds, deed.Precedes (.resumed index id answer) := by
      intro deed member
      obtain ⟨given, released, stays⟩ := past deed member
      refine ⟨nofun, fun last => released last _ rfl, ?_⟩
      rintro place there other ⟨⟩ same
      exact stays place there _ rfl same
    cases final : isFinal answer with
    | true =>
      refine ⟨nofun, forall_snoc ?_ ?_, pairwise_snoc apart precedes⟩
      · exact fun deed member => ⟨(past deed member).given, fun _ => nofun, fun _ _ => nofun⟩
      · exact ⟨issued _ rfl, fun _ => nofun, fun _ _ => nofun⟩
    | false =>
      refine ⟨issued, forall_snoc past ⟨issued _ rfl, ?_, ?_⟩, pairwise_snoc apart precedes⟩
      · intro last
        exact absurd (final.symm.trans last) nofun
      · rintro place ⟨⟩ held ⟨⟩ _
        rfl

/-- A deed that takes what the deeds before it hold. -/
theorem takes_snoc {deed : Deed} {held : Option (Nat × Nat)} (top : deed.isTop = true)
    (chain : (deeds.filter Deed.isTop).IsChain fun deed next => next.Takes deed.holds?)
    (holds : (deeds.filter Deed.isTop).getLast?.bind Deed.holds? = held)
    (takes : deed.Takes held) :
    ((deeds ++ [deed]).filter Deed.isTop).IsChain (fun deed next => next.Takes deed.holds?) ∧
      ((deeds ++ [deed]).filter Deed.isTop).getLast?.bind Deed.holds? = deed.holds? := by
  have longer : (deeds ++ [deed]).filter Deed.isTop = deeds.filter Deed.isTop ++ [deed] := by
    rw [List.filter_append, List.filter_cons_of_pos top, List.filter_nil]
  rw [longer, List.getLast?_concat]
  refine ⟨chain.append (.singleton _) ?_, rfl⟩
  rintro last at_end next ⟨⟩
  rw [at_end, Option.bind_some] at holds
  rwa [holds]

theorem takes (orderly : Orderly first deeds last) (vacant : first.held = none) :
    ((deeds.filter Deed.isTop).IsChain fun deed next => next.Takes deed.holds?) ∧
      (deeds.filter Deed.isTop).getLast?.bind Deed.holds? = last.held := by
  induction orderly with
  | nothing => exact ⟨.nil, vacant.symm⟩
  | nested answer _ ih =>
    rw [List.filter_append, List.filter_cons_of_neg Bool.false_ne_true, List.filter_nil,
      List.append_nil]
    exact ih
  | started index _ ih => exact takes_snoc rfl ih.1 ih.2 ⟨index, _, rfl⟩
  | resumed answer _ ih => exact takes_snoc rfl ih.1 ih.2 ⟨answer, rfl⟩

theorem disciplined (orderly : Orderly first deeds last) (vacant : first.held = none) :
    Disciplined deeds last.held := by
  have issued : first.Issued := by
    intro held member
    rw [vacant] at member
    contradiction
  obtain ⟨next, held⟩ := orderly.takes vacant
  exact ⟨(orderly.apart issued).2.2, next, held⟩

end Orderly
end TickScript
