import TickScript.Host

/-! A stock of host commands that show how a script is run: commands that note
their calls, count them, read the clock or the namespace, last for some ticks,
decline or fail. -/
namespace TickScript

/-- An error that a command is told to raise, in its own name. -/
inductive ErrorForm
  | resolution (name : String)
  | evaluation (expr reason : String)
  | count (expected : String) (found : Nat)
  | type (message : String)

def ErrorForm.raisedBy (command : String) : ErrorForm → ScriptError
  | resolution name => .resolution name
  | evaluation expr reason => .evaluation expr reason
  | count expected found => .wrongCount command expected found
  | type message => .wrongType command message

inductive Probe
  | record (result : Value)
  | list
  /-- Gives one of its named arguments back. -/
  | pick (key : String)
  /-- Gives its arguments back if there are that many. -/
  | exact (size : Nat)
  /-- Counts its calls in one of the world's counters. -/
  | counter (index : Nat)
  | raise (error : ErrorForm)
  | reject (error : ErrorForm)
  /-- Is done with a value known from the start. -/
  | ready (result : Value)
  /-- Is done with the time of its start. -/
  | stamp
  /-- Is done with the time of its resume. -/
  | now
  /-- Reads a name when resumed. -/
  | peek
  /-- Reads a name when started. -/
  | peekEarly
  /-- Lasts for as many resumes as its argument says. -/
  | countdown
  /-- Lasts for some resumes and then declines. -/
  | declinesAfter (resumes : Nat)
  /-- Fails at its first resumes and is then done with the number of resumes. -/
  | flaky (failures : Nat)

namespace Probe

/-- The calls that were noted, the newest first, and the counters. -/
structure World where
  calls : List Invocation := []
  counters : List Nat := []

/-- The world with a new counter, and the index of it. -/
def World.addCounter (world : World) : Nat × World :=
  (world.counters.length, { world with counters := world.counters ++ [0] })

inductive Task
  | immediate (probe : Probe) (call : Invocation)
  | ready (value : Value)
  | clock
  | peek (name : String)
  | lasting (resumes : Nat) (answer : Resume)
  | flaky (command : String) (failures resumes : Nat)

/-- A time as a value, in nanoseconds. -/
def timeValue (t : Time) : Value := .int (Int64.ofNat t)

/-- The name a call asks for: the text of its first argument. -/
def asked (call : Invocation) : String := (call.args.head?.map Value.shown).getD ""

def read (names : Namespace) (name : String) : Value := (names.get? name).getD .null

def start (probe : Probe) (call : Invocation) (context : Context) : Except Fault Task :=
  match probe with
  | reject error => .error (.script (error.raisedBy call.name))
  | ready result => .ok (.ready result)
  | stamp => .ok (.ready (timeValue context.now))
  | now => .ok .clock
  | peek => .ok (.peek (asked call))
  | peekEarly => .ok (.ready (read context.names (asked call)))
  | countdown =>
    match call.args with
    | .int n :: _ => .ok (.lasting n.toInt.toNat (.done (.str "done")))
    | _ => .error (.script (.wrongType call.name "expected an int"))
  | declinesAfter resumes => .ok (.lasting resumes .declined)
  | flaky failures => .ok (.flaky call.name failures 0)
  | probe => .ok (.immediate probe call)

/-- The value of an immediate command, and the world after its call. -/
def call (probe : Probe) (call : Invocation) (world : World) :
    Except ScriptError Value × World :=
  match probe with
  | record result => (.ok result, { world with calls := call :: world.calls })
  | list => (.ok (.list call.args), world)
  | pick key => (.ok ((call.named.get? key).getD .null), world)
  | exact size =>
    if call.args.length = size then (.ok (.list call.args), world)
    else (.error (.wrongCount call.name (toString size) call.args.length), world)
  | counter index =>
    let count := world.counters.getD index 0 + 1
    (.ok (.int (Int64.ofNat count)), { world with counters := world.counters.set index count })
  | raise error => (.error (error.raisedBy call.name), world)
  | _ => (.ok .null, world)

def resume (task : Task) (context : Context) (world : World) : Resumed Task World :=
  match task with
  | .immediate probe invocation =>
    let (outcome, world) := probe.call invocation world
    let outcome := match outcome with
      | .ok value => .ok (.done value)
      | .error error => .error (.script error)
    ⟨outcome, task, world, []⟩
  | .ready value => ⟨.ok (.done value), .ready .null, world, []⟩
  | .clock => ⟨.ok (.done (timeValue context.now)), task, world, []⟩
  | .peek name => ⟨.ok (.done (read context.names name)), task, world, []⟩
  | .lasting 0 answer => ⟨.ok answer, task, world, []⟩
  | .lasting (resumes + 1) answer => ⟨.ok .unfinished, .lasting resumes answer, world, []⟩
  | .flaky command 0 resumes =>
    let resumes := resumes + 1
    ⟨.ok (.done (.int (Int64.ofNat resumes))), .flaky command 0 resumes, world, []⟩
  | .flaky command (failures + 1) resumes =>
    ⟨.error (.script (.wrongType command "not ready")), .flaky command failures (resumes + 1),
      world, []⟩

def host : Host Probe Task World where
  start probe call context world := ⟨probe.start call context, world, []⟩
  resume := resume

end Probe
end TickScript
