import TickScript.Config

/-! A configuration as a record within a document. What counts as a number, a
flag or a text depends on the kind of document; the parts of a configuration and
their places do not. -/
namespace TickScript.Config

/-- How the parts of a kind of document are read. -/
structure Reading (δ : Type) where
  /-- The parts of a record by place and name, if a document is a record. -/
  parts? : δ → Option (Nat → String → Option δ)
  /-- A natural number below 2^64. -/
  word? : δ → Option Nat
  flag? : δ → Option Bool
  text? : δ → Option String

namespace Reading

variable {α δ : Type}

/-- Reads a part; a missing one has its default. -/
def part (read? : δ → Option α) (default : α) : Option δ → Option α
  | some document => read? document
  | none => some default

def runner? (reading : Reading δ) (document : δ) : Option RunnerConfig := do
  let default : RunnerConfig := {}
  let parts ← reading.parts? document
  let tickIntervalMs ←
    part reading.word? default.tickIntervalMs (parts 0 "tick_interval_ms")
  let maxTicks ← part reading.word? default.maxTicks (parts 1 "max_ticks")
  let stopOnError ← part reading.flag? default.stopOnError (parts 2 "stop_on_error")
  some { tickIntervalMs, maxTicks, stopOnError }

def logLevel? (reading : Reading δ) (document : δ) : Option String := do
  let default : Config := {}
  let parts ← reading.parts? document
  part reading.text? default.logLevel (parts 0 "level")

/-- The configuration that a document holds. Unknown parts are passed over. -/
def config? (reading : Reading δ) (document : δ) : Option Config := do
  let default : Config := {}
  let parts ← reading.parts? document
  let runner ← part reading.runner? default.runner (parts 0 "runner")
  let logLevel ← part reading.logLevel? default.logLevel (parts 1 "log")
  some { runner, logLevel }

end Reading
end TickScript.Config
