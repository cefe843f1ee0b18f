import TickScript.Runner

/-! The configuration of the program: its parts, their defaults, the settings of
a caller that go before all others, and what can be wrong with it. -/
namespace TickScript

structure Config where
  runner : RunnerConfig := {}
  logLevel : String := "info"
  deriving DecidableEq, Repr

inductive ConfigError
  /-- A file that was asked for does not exist. -/
  | fileNotFound (path : String)
  /-- A file, a variable or a value in them makes no sense. -/
  | invalid
  | zeroTickInterval
  | unreadable (path : String)
  | unparsable (path : String)
  /-- A number is too large to be written down. -/
  | unwritable
  | brokeDown (cause : Breakdown)
  deriving DecidableEq, Repr

def ConfigError.message : ConfigError → String
  | fileNotFound path => "Config file not found: " ++ Text.quotedPath path
  | invalid => "Invalid configuration"
  | zeroTickInterval =>
    "runner.tick_interval_ms must be at least 1\n\nSet it using one of:\n" ++
    "1. Config file: 'tick_interval_ms = 16' in the [runner] section of cadence.toml\n" ++
    "2. Environment variable: CADENCE_RUNNER__TICK_INTERVAL_MS=16\n" ++
    "3. CLI flag: --tick-ms 16"
  | unreadable path => "Failed to read config file: " ++ Text.quotedPath path
  | unparsable path => "Failed to parse config file: " ++ Text.quotedPath path
  | unwritable => "Failed to serialize config"
  | brokeDown cause => cause.message

namespace Config

structure Overrides where
  /-- The file to read instead of looking for one. -/
  path : Option String := none
  tickIntervalMs : Option Nat := none
  maxTicks : Option Nat := none
  stopOnError : Option Bool := none
  logLevel : Option String := none
  deriving DecidableEq, Repr

/-- The configuration with the settings of a caller in place of its own. -/
def override (config : Config) (overrides : Overrides) : Config where
  runner :=
    { tickIntervalMs := overrides.tickIntervalMs.getD config.runner.tickIntervalMs
      maxTicks := overrides.maxTicks.getD config.runner.maxTicks
      stopOnError := overrides.stopOnError.getD config.runner.stopOnError }
  logLevel := overrides.logLevel.getD config.logLevel

/-- Ticks need time between them. -/
def validate (config : Config) : Except ConfigError Config :=
  if config.runner.tickIntervalMs = 0 then .error .zeroTickInterval else .ok config

end Config
end TickScript
