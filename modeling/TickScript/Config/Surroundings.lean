import TickScript.Config
import TickScript.Config.EnvFile
import TickScript.FileTree

/-! What a program finds when it starts: files and environment variables. -/
namespace TickScript.Config

structure Surroundings where
  files : FileTree
  environment : Environment

namespace Surroundings

/-- The surroundings with the variables of the file `.env`, if there is one. -/
def withEnvFile (s : Surroundings) : Except Breakdown Surroundings :=
  match s.files.text? ".env" with
  | some text => (EnvFile.addTo text s.environment).map fun environment => { s with environment }
  | none => .ok s

/-- The path of a file below a directory. -/
def below (directory file : String) : String :=
  if directory.isEmpty || directory.endsWith "/" then directory ++ file
  else directory ++ "/" ++ file

/-- The paths at which a configuration file is looked for when none is named. -/
def usualPaths (s : Surroundings) : List String :=
  "cadence.toml" :: ((s.environment.get? "HOME").map (below · ".config/cadence/config.toml")).toList

/-- The configuration file to read, if any: the one that the caller or a variable names, which has
to exist, or else the first one at the usual paths. -/
def configPath (s : Surroundings) (named : Option String) :
    Except ConfigError (Option String) :=
  match named <|> s.environment.get? "CADENCE_CONFIG_PATH" with
  | some path => if s.files.exists? path then .ok (some path) else .error (.fileNotFound path)
  | none => .ok (s.usualPaths.find? s.files.exists?)

/-- The file that may stand for a directory: the one with `.toml` added to its name. -/
def fileFor? (path : String) : Option String :=
  match (path.splitOn "/").reverse.dropWhile fun part => part ∈ ["", "."] with
  | [] => none
  | ".." :: _ => none
  | parts => some ("/".intercalate parts.reverse ++ ".toml")

/-- The text of a configuration file, or of the file that stands for a directory. -/
def configText? (s : Surroundings) (path : String) : Option String :=
  match s.files.entry? path with
  | some (.file text) => some text
  | some .directory => (fileFor? path).bind s.files.text?
  | none => none

/-- All paths that are looked at to find a configuration. -/
def paths (s : Surroundings) (named : Option String) : List String :=
  let s := (s.withEnvFile.toOption).getD s
  let paths := named.toList ++ (s.environment.get? "CADENCE_CONFIG_PATH").toList ++ s.usualPaths
  paths ++ paths.filterMap fileFor?

end Surroundings
end TickScript.Config
