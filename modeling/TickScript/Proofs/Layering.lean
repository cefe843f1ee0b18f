import TickScript.Proofs.Entries
import TickScript.Proofs.Variables

/-! The configuration of a program is decided key by key. Its caller's own settings go before
variables, variables before the file, the file before the defaults, and only the interval that
comes out of this is checked. The file is the one that the caller names, or else a variable, or
else the first one in its usual places. -/
namespace TickScript.Config

section Lookup

variable {s : Surroundings} {given path : Option String}

end Lookup

/-! ### Sources -/

/-- The document in the file that is consulted, or in the file that stands for a directory. Without
a file there is nothing in it. -/
inductive Surroundings.Reads (s : Surroundings) : Option String → Document → Prop
  | nothing : Reads s none []
  | file {path text document} (there : s.files.entry? path = some (.file text))
      (read : Toml.read? (String.ofList (Text.withoutMark text.toList)) = some document) :
      Reads s (some path) document
  | directory {path other text document} (there : s.files.entry? path = some .directory)
      (stands : fileFor? path = some other) (inside : s.files.entry? other = some (.file text))
      (read : Toml.read? (String.ofList (Text.withoutMark text.toList)) = some document) :
      Reads s (some path) document

/-- What a configuration is made of below the caller's own settings: the surroundings with the
variables of `.env`, the file that is read, if any, and its settings. -/
structure Sources where
  surroundings : Surroundings
  path : Option String
  file : Layer

namespace Sources

def layers (sources : Sources) : List Layer :=
  [variableLayer sources.surroundings.environment, sources.file, defaults]

end Sources

def Overrides.setting? (overrides : Overrides) : Key → Option Raw
  | .tickIntervalMs => overrides.tickIntervalMs.map fun n : Nat => .int n
  | .maxTicks => overrides.maxTicks.map fun n : Nat => .int n
  | .stopOnError => overrides.stopOnError.map .bool
  | .logLevel => overrides.logLevel.map .str

def Key.default : Key → Raw
  | tickIntervalMs => .int 16
  | maxTicks => .int 0
  | stopOnError => .bool true
  | logLevel => .str "info"

/-- A configuration has a value for a key. -/
def Takes (config : Config) : Key → Raw → Prop
  | .tickIntervalMs, value => value.word? = some config.runner.tickIntervalMs
  | .maxTicks, value => value.word? = some config.runner.maxTicks
  | .stopOnError, value => value.flag? = some config.runner.stopOnError
  | .logLevel, value => value.text? = some config.logLevel

section Parts

variable {δ : Type} {reading : Reading δ} {document : δ}

end Parts

theorem Raw.word?_natCast (n : Nat) : (Raw.int n).word? = some n := by
  rw [word?, if_pos (Int.natCast_nonneg n), Int.toNat_natCast]

section Outcomes

variable {overrides : Overrides} {s : Surroundings} {sources : Sources}

end Outcomes

/-- What is written in variables and in a file, and what it sets. -/
structure Contents : Prop where
  /-- The last of the variables for a key gives it its value, where they are all for keys. -/
  environment : ∀ environment : Environment,
    (∀ entry ∈ environment.entries, ∀ setting, settingName? entry.1 = some setting →
      ∃ key : Key, key.Names entry.1) →
    (variableLayer environment).ByKey ∧
      ∀ key, Layer.setting? (variableLayer environment) key = environment.setting? key
  names : ∀ key : Key, key.Names key.variable
  /-- The last of the entries for a key in a plain file gives it its value. -/
  file : ∀ document : List Toml.Section, Toml.PlainDocument document →
    ∃ layer, fileLayer? (String.ofList (Toml.documentText document)) = some layer ∧
      layer.ByKey ∧ ∀ key, layer.setting? key =
        Document.setting? (document.map fun part => (part.1, .table part.2)) key
  number : ∀ n : Nat, Literal.isInt64 n = true →
    variableValue (toString (n : Int)) = .int n ∧ Raw.ofToml? (.int n) = some (.int n) ∧
      Raw.word? (.int n) = some n
  flag : ∀ (b : Bool) text, Text.lower text = toString b →
    variableValue text = .bool b ∧ Raw.ofToml? (.bool b) = some (.bool b) ∧
      Raw.flag? (.bool b) = some b
  word : ∀ text, IsWord text → variableValue text = .str text
  text : ∀ text, Raw.ofToml? (.str text) = some (.str text) ∧ Raw.text? (.str text) = some text

theorem contents : Contents where
  environment _ own := ⟨variableLayer_byKey own, variableLayer_setting (variableLayer_byKey own)⟩
  names := Key.names_variable
  file _ := fileLayer?_plain
  number n fits := ⟨variableValue_toString fits, rfl, Raw.word?_natCast n⟩
  flag b text same := by
    cases b with
    | true => exact ⟨if_pos same, rfl, rfl⟩
    | false =>
      have other : Text.lower text ≠ "true" := fun also => absurd (same.symm.trans also) (by decide)
      exact ⟨(if_neg other).trans (if_pos same), rfl, rfl⟩
  word _ := variableValue_word
  text _ := ⟨rfl, rfl⟩

end TickScript.Config
