import TickScript.Config.KeyPath
import TickScript.Config.Surroundings
import TickScript.Event
import TickScript.Toml.Reader

/-! The configuration a program works with. Every setting has its value from the
highest layer that has one: the caller's own settings, environment variables, a
file, the defaults. -/
namespace TickScript.Config

abbrev Layer := List (String × Raw)

def defaults : Layer :=
  let config : Config := {}
  [("runner.tick_interval_ms", .int config.runner.tickIntervalMs),
    ("runner.max_ticks", .int config.runner.maxTicks),
    ("runner.stop_on_error", .bool config.runner.stopOnError),
    ("log.level", .str config.logLevel)]

/-- The settings of a file with TOML text, in front of which a second mark of the byte order may
stand. -/
def fileLayer? (text : String) : Option Layer :=
  (Toml.read? (String.ofList (Text.withoutMark text.toList))).bind Raw.ofDocument?

/-- The value of a variable: a truth value, a number that fits 64 bits, a float or a text. -/
def variableValue (text : String) : Raw :=
  let word := Text.lower text
  if word = "true" then .bool true
  else if word = "false" then .bool false
  else match (Literal.int? text.toList).bind fitInt64? with
    | some n => .int n.toInt
    | none =>
      match Literal.binary64? text.toList with
      | some x => .float x
      | none => .str text

/-- A name with a dot in place of every two low lines. -/
def dotted : List Char → List Char
  | '_' :: '_' :: rest => '.' :: dotted rest
  | c :: rest => c :: dotted rest
  | [] => []

/-- The path of the setting that a variable stands for. Two low lines separate names. -/
def settingName? (name : String) : Option String :=
  (Environment.after? "cadence_".toList (Text.lower name).toList).map fun rest =>
    String.ofList (dotted rest)

/-- The settings of the variables whose names begin with `CADENCE_`. -/
def variableLayer (environment : Environment) : Layer :=
  environment.entries.filterMap fun (name, text) =>
    (settingName? name).map fun setting => (setting, variableValue text)

/-- Layers one over the other, the lowest first. -/
def stack (layers : List Layer) : Except Breakdown Raw :=
  layers.foldlM (fun settings layer => settings.setAll layer) (.table [])

/-- The configuration of surroundings when a file is chosen. -/
def settle (s : Surroundings) (path : Option String) : Except ConfigError Config := do
  let file ← match path with
    | none => .ok []
    | some path =>
      match (s.configText? path).bind fileLayer? with
      | some layer => .ok layer
      | none => .error .invalid
  let settings ← (stack [defaults, file, variableLayer s.environment]).mapError .brokeDown
  match Raw.reading.config? settings with
  | some config => .ok config
  | none => .error .invalid

/-- The configuration for a caller in some surroundings, and the events of finding it. -/
def build (overrides : Overrides) (s : Surroundings) : Except ConfigError Config × List Event :=
  let found : Except ConfigError (Surroundings × Option String) := do
    let s ← s.withEnvFile.mapError .brokeDown
    let path ← s.configPath overrides.path
    .ok (s, path)
  match found with
  | .error error => (.error error, [])
  | .ok (s, path) =>
    ((settle s path).bind fun config => (config.override overrides).validate,
      (path.map Event.loadingConfig).toList)

end TickScript.Config
