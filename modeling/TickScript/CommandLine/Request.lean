import TickScript.Decimal.Literal

/-! What the words of a command line ask for, and what can be wrong with them.
Words are read from left to right, and the first thing that is wrong counts. The
value of an option or of the script is looked at when the next option or word of
its own comes, or at the end. -/
namespace TickScript.CommandLine

inductive Task
  | run (script : String) (tickMs maxTicks : Option Nat) (keepGoing : Bool)
  | check (script : String)
  | config
  deriving DecidableEq, Repr

structure Request where
  config : Option String
  task : Task
  deriving DecidableEq, Repr

/-- What can be wrong with a command line. A wish for help is no request either. -/
inductive UsageError
  | help
  | nothing
  | noTask
  | unknownTask
  | unknownArgument
  | missingScript
  | noValue
  | notANumber
  | valueForSwitch
  | repeated
  deriving DecidableEq, Repr

def UsageError.message : UsageError → String
  | help => "Runs scripts tick by tick."
  | nothing => "There is nothing to do."
  | noTask => "A task is missing."
  | unknownTask => "There is no such task."
  | unknownArgument => "There is an argument that is not taken."
  | missingScript => "The script is missing."
  | noValue => "A value is missing or empty."
  | notANumber => "A value is no number that fits 64 bits."
  | valueForSwitch => "There is a value for an option that takes none."
  | repeated => "An option is given twice."

def usage : String :=
  "Usage: cadence [--config PATH] TASK\n\nTasks:\n" ++
  "  run SCRIPT [--tick-ms N] [--max-ticks N] [--keep-going]  run a script until it finishes\n" ++
  "  check SCRIPT  verify that every command of a script exists\n" ++
  "  config        print the configuration"

/-- The files of scripts that a task reads. -/
def Task.scripts : Task → List String
  | run script .. => [script]
  | check script => [script]
  | config => []

inductive Verb
  | run | check | config
  deriving DecidableEq, Repr

def Verb.ofWord? : String → Option Verb
  | "run" => some run
  | "check" => some check
  | "config" => some config
  | _ => none

/-- What stands in a command line with a value of its own. -/
inductive Slot
  | config | tickMs | maxTicks | script
  deriving DecidableEq, Repr

inductive Flag
  | help
  | keepGoing
  | valued (slot : Slot)
  deriving DecidableEq, Repr

/-- The long options after a task's word, or before any. -/
def Flag.ofName? (verb : Option Verb) (name : String) : Option Flag :=
  if name = "help" then some help
  else if name = "config" then some (valued .config)
  else if verb = some .run then
    if name = "tick-ms" then some (valued .tickMs)
    else if name = "max-ticks" then some (valued .maxTicks)
    else if name = "keep-going" then some keepGoing
    else none
  else none

inductive Word
  /-- Two dashes: all words after it are words of their own. -/
  | separator
  | long (name : String) (value : Option String)
  | short (letter : Char)
  | plain
  deriving DecidableEq, Repr

def Word.ofString (word : String) : Word :=
  match word.toList with
  | ['-', '-'] => .separator
  | '-' :: '-' :: text =>
    let name := text.takeWhile (· != '=')
    let value := match text.drop name.length with
      | _ :: value => some (String.ofList value)
      | [] => none
    .long (String.ofList name) value
  | '-' :: letter :: _ => .short letter
  | _ => .plain

structure Given where
  config : Option String := none
  tickMs : Option Nat := none
  maxTicks : Option Nat := none
  keepGoing : Bool := false
  script : Option String := none
  deriving DecidableEq, Repr

structure Reading where
  given : Given := {}
  /-- What was named last, and its value if that has been read. -/
  pending : Option (Slot × Option String) := none
  separated : Bool := false
  deriving DecidableEq, Repr

namespace Given

/-- A path that was not given before and is not empty. -/
def path? (old : Option String) (value : String) : Except UsageError String :=
  if old.isSome then .error .repeated else if value.isEmpty then .error .noValue else .ok value

/-- A number below 2^64 that was not given before. -/
def number? (old : Option Nat) (value : String) : Except UsageError Nat :=
  if old.isSome then .error .repeated
  else match Literal.word? value.toList with
    | some n => .ok n
    | none => .error .notANumber

def accept (given : Given) (slot : Slot) (value : String) : Except UsageError Given :=
  match slot with
  | .config => (path? given.config value).map fun path => { given with config := some path }
  | .tickMs => (number? given.tickMs value).map fun n => { given with tickMs := some n }
  | .maxTicks => (number? given.maxTicks value).map fun n => { given with maxTicks := some n }
  | .script => (path? given.script value).map fun path => { given with script := some path }

end Given

namespace Reading

/-- Whether the next word may be the value of an option. -/
def isWaiting (reading : Reading) : Bool :=
  match reading.pending with
  | some (_, none) => true
  | _ => false

def settle (reading : Reading) : Except UsageError Reading :=
  match reading.pending with
  | none => .ok reading
  | some (_, none) => .error .noValue
  | some (slot, some value) =>
    (reading.given.accept slot value).map fun given => { reading with given, pending := none }

def takeFlag (reading : Reading) (flag : Flag) (value : Option String) :
    Except UsageError Reading := do
  match flag, value with
  | .valued slot, some value =>
    let reading ← reading.settle
    let given ← reading.given.accept slot value
    .ok { reading with given }
  | .valued slot, none =>
    let reading ← reading.settle
    .ok { reading with pending := some (slot, none) }
  | _, some _ => .error .valueForSwitch
  | .help, none =>
    let _ ← reading.settle
    .error .help
  | .keepGoing, none =>
    let reading ← reading.settle
    if reading.given.keepGoing then .error .repeated
    else .ok { reading with given := { reading.given with keepGoing := true } }

/-- Reads a word that is an option, the value of one or the separator; other words are left. -/
def takeOption? (reading : Reading) (verb : Option Verb) (word : String) :
    Except UsageError (Option Reading) :=
  if reading.separated then .ok none
  else match Word.ofString word with
    | .separator => .ok (some { reading with separated := true })
    | .long name value =>
      match Flag.ofName? verb name with
      | some flag => (reading.takeFlag flag value).map some
      | none => .error .unknownArgument
    | .short letter =>
      if letter = 'h' then (reading.takeFlag .help none).map some else .error .unknownArgument
    | .plain =>
      match reading.pending with
      | some (slot, none) => .ok (some { reading with pending := some (slot, some word) })
      | _ => .ok none

/-- Reads a word of its own after a task's word: only a script, and only one. -/
def takeScript (reading : Reading) (verb : Verb) (word : String) : Except UsageError Reading := do
  let scriptRead := reading.given.script.isSome ||
    reading.pending.any fun (slot, _) => slot == .script
  if verb = .config || scriptRead then .error .unknownArgument
  else
    let reading ← reading.settle
    .ok { reading with pending := some (.script, some word) }

end Reading

def readTask (verb : Verb) (reading : Reading) : List String → Except UsageError Given
  | [] => reading.settle.map (·.given)
  | word :: words => do
    match ← reading.takeOption? (some verb) word with
    | some reading => readTask verb reading words
    | none => readTask verb (← reading.takeScript verb word) words

/-- The task of what was given after its word. -/
def task (verb : Verb) (given : Given) : Except UsageError Task :=
  match verb, given.script with
  | .config, _ => .ok .config
  | .run, some script => .ok (.run script given.tickMs given.maxTicks given.keepGoing)
  | .check, some script => .ok (.check script)
  | _, none => .error .missingScript

/-- The answer to a wish for help on some words, of which only one task can be meant. -/
def helpOn : List String → UsageError
  | [] => .help
  | [word] => if (Verb.ofWord? word).isSome || word == "help" then .help else .unknownTask
  | _ => .unknownTask

/-- Reads the words up to a task's word and those after it. The configuration file named last
counts. -/
def readWords (reading : Reading) : List String → Except UsageError Request
  | [] => do
    let reading ← reading.settle
    .error (if reading.given.config.isSome then .noTask else .nothing)
  | word :: words => do
    let isTask := (Verb.ofWord? word).isSome || word == "help"
    if !reading.separated && !reading.isWaiting && isTask then
      match Verb.ofWord? word with
      | none => .error (helpOn words)
      | some verb =>
        let given ← readTask verb {} words
        let task ← task verb given
        let reading ← reading.settle
        .ok ⟨given.config <|> reading.given.config, task⟩
    else
      match ← reading.takeOption? none word with
      | some reading => readWords reading words
      | none => .error (if reading.separated && isTask then .unknownArgument else .unknownTask)

/-- What the words of a command line ask for. -/
def Request.read (words : List String) : Except UsageError Request := readWords {} words

end TickScript.CommandLine
