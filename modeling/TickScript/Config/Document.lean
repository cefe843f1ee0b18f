import TickScript.Config.Record
import TickScript.FileTree
import TickScript.Toml.Reader
import TickScript.Toml.Writer

/-! Configurations as TOML documents of their own: every value has to be of its
own kind, and there are no other sources. -/
namespace TickScript

/-- A natural number; TOML has none from 2^63 on. -/
def Toml.word? : Toml → Option Nat
  | .int n => if 0 ≤ n then some n.toNat else none
  | _ => none

def Toml.flag? : Toml → Option Bool
  | .bool b => some b
  | _ => none

/-- A record is a table, a list of its parts in order, or a moment, which has none. -/
def Toml.parts? : Toml → Option (Nat → String → Option Toml)
  | .table fields => some fun _ name => fields.lookup name
  | .array items => some fun place _ => items[place]?
  | .moment _ => some fun _ _ => none
  | _ => none

namespace Config

/-- A TOML document is read to the letter. -/
def strict : Reading Toml :=
  { parts? := Toml.parts?, word? := Toml.word?, flag? := Toml.flag?, text? := Toml.text? }

def ofText? (text : String) : Option Config :=
  (Toml.read? text).bind fun fields => strict.config? (.table fields)

/-- The configuration in a file, as it stands there. -/
def ofFile (files : FileTree) (path : String) : Except ConfigError Config :=
  match files.text? path with
  | none => .error (.unreadable path)
  | some text =>
    match ofText? text with
    | some config => .ok config
    | none => .error (.unparsable path)

/-- Whether a number can be written as a TOML integer. -/
def isWritable (n : Nat) : Bool := Literal.isInt64 n

def toText (config : Config) : Except ConfigError String :=
  let runner := config.runner
  if isWritable runner.tickIntervalMs && isWritable runner.maxTicks then do
    let level ← (Toml.quoted config.logLevel).mapError .brokeDown
    .ok ("[runner]\n" ++
      "tick_interval_ms = " ++ toString runner.tickIntervalMs ++ "\n" ++
      "max_ticks = " ++ toString runner.maxTicks ++ "\n" ++
      "stop_on_error = " ++ (if runner.stopOnError then "true" else "false") ++ "\n" ++
      "\n[log]\n" ++
      "level = " ++ level ++ "\n")
  else .error .unwritable

end Config
end TickScript
