import TickScript.Config.Environment
import TickScript.Text.Alphanumeric
import TickScript.Text.Blank

/-! Files of variables, a line each: `KEY=value`. A value may be in quotes, which
may go over several lines, and may refer to variables as `$NAME`. -/
namespace TickScript.Config.EnvFile

/-! ### Lines -/

inductive Place
  | outside
  | afterBlank
  | afterBackslash
  /-- Within quotes of one kind, maybe after a backslash. -/
  | quoted (quote : Char) (backslash : Bool)
  deriving DecidableEq, Repr

def Place.next : Place → Char → Place
  | .afterBackslash, _ => .outside
  | .quoted quote true, _ => .quoted quote false
  | .quoted quote false, c =>
    if c = '\\' then .quoted quote true else if c = quote then .outside else .quoted quote false
  | place, c =>
    if c = '\\' then .afterBackslash
    else if c = '"' ∨ c = '\'' then .quoted c false
    else if place = .outside ∧ Text.isBlank c ∧ c ≠ '\n' ∧ c ≠ '\r' then .afterBlank
    else .outside

/-- Goes through a line. A number sign after a blank begins a comment; then the part before it is
the result, otherwise the place at the end. -/
def scan : Place → List Char → List Char → List Char ⊕ Place
  | place, _, [] => .inr place
  | place, before, c :: rest =>
    if place = .afterBlank ∧ c = '#' then .inl before.reverse
    else scan (place.next c) (c :: before) rest

/-- The lines of a text with the line ends they have. -/
def physicalLines : List Char → List (List Char)
  | [] => []
  | c :: rest =>
    if c = '\n' then [c] :: physicalLines rest
    else match physicalLines rest with
      | [] => [[c]]
      | line :: lines => (c :: line) :: lines

def withoutEnd (line : List Char) : List Char :=
  match line.reverse with
  | '\n' :: '\r' :: rest => rest.reverse
  | '\n' :: rest => rest.reverse
  | _ => line

/-- Joins the lines that quotes and backslashes hold together and drops comments. A text that ends
where a line cannot has no line there. -/
def joinLines (before : List Char) (place : Place) : List (List Char) → List (Option (List Char))
  | [] => if place = .outside then [] else [none]
  | line :: rest =>
    if (Text.trimStart (before ++ line)).head? = some '#' then joinLines [] .outside rest
    else match scan place [] line with
      | .inl kept => some (before ++ kept) :: joinLines [] .outside rest
      | .inr .outside => some (withoutEnd (before ++ line)) :: joinLines [] .outside rest
      | .inr place => joinLines (before ++ line) place rest

/-! ### Values -/

inductive Mode
  | plain
  /-- After the value: only blanks and a comment may follow. -/
  | ended
  /-- After a backslash, in double quotes or not. -/
  | escaped (quoted : Bool)
  | single
  | double
  /-- In the name of a variable, its last character first. -/
  | name (quoted : Bool) (soFar : List Char)
  | braced (quoted : Bool) (soFar : List Char)

/-- The mode within double quotes or outside of them. -/
def Mode.within (quoted : Bool) : Mode := if quoted then .double else .plain

/-- The value of a variable by its name in reverse; one that is not set is empty. -/
def fill (environment : Environment) (name : List Char) : List Char :=
  ((environment.get? (String.ofList name.reverse)).getD "").toList

/-- The characters that a character adds to a value, and the mode after it. -/
def Mode.step (environment : Environment) (c : Char) : Mode → Option (List Char × Mode)
  | .ended => if c = ' ' ∨ c = '\t' then some ([], .ended) else none
  | .escaped quoted =>
    if c ∈ ['\\', '\'', '"', '$', ' '] then some ([c], within quoted)
    else if c = 'n' then some (['\n'], within quoted)
    else none
  | .single => some (if c = '\'' then ([], .plain) else ([c], .single))
  | .name quoted soFar =>
    if Text.isAlphanumeric c then some ([], .name quoted (c :: soFar))
    else if c = '\x7b' ∧ soFar = [] then some ([], .braced quoted [])
    else if c = '$' then some (fill environment soFar, .name quoted [])
    else some (fill environment soFar ++ [c], within quoted)
  | .braced quoted soFar =>
    if c = '\x7d' then some (fill environment soFar, within quoted)
    else some ([], .braced quoted (c :: soFar))
  | .double =>
    some (
      if c = '$' then ([], .name true [])
      else if c = '"' then ([], .plain)
      else if c = '\\' then ([], .escaped true)
      else ([c], .double))
  | .plain =>
    some (
      if c = '$' then ([], .name false [])
      else if c = '\'' then ([], .single)
      else if c = '"' then ([], .double)
      else if c = '\\' then ([], .escaped false)
      else if c = ' ' ∨ c = '\t' then ([], .ended)
      else ([c], .plain))

/-- What a value ends with in a mode in which it may end. -/
def Mode.finish? (environment : Environment) : Mode → Option (List Char)
  | .plain | .ended | .escaped false => some []
  | .name false soFar => some (fill environment soFar)
  | _ => none

def value? (environment : Environment) : Mode → List Char → Option (List Char)
  | mode, [] => mode.finish? environment
  | .ended, '#' :: _ => some []
  | mode, c :: rest => do
    let (added, mode) ← mode.step environment c
    let others ← value? environment mode rest
    some (added ++ others)

/-! ### Entries -/

def isKeyChar (c : Char) : Bool := c.isAlphanum || c == '_' || c == '.'

/-- A key at the front of a text, and what follows it and blanks. -/
def key? (text : List Char) : Option (String × List Char) :=
  if text.head?.any fun c => c.isAlpha || c == '_' then
    some (String.ofList (text.takeWhile isKeyChar), Text.trimStart (text.dropWhile isKeyChar))
  else none

/-- A key and the text after its equals sign. The word `export` may stand before a key. -/
def assignment? (text : List Char) : Option (String × List Char) := do
  let (key, rest) ← key? text
  match rest with
  | '=' :: rest => some (key, rest)
  | rest =>
    if key = "export" then
      match key? rest with
      | some (key, '=' :: rest) => some (key, rest)
      | _ => none
    else none

inductive Line
  | blank
  | entry (key value : String)
  | malformed

def readLine (environment : Environment) (line : List Char) : Line :=
  match Text.trim line with
  | [] => .blank
  | '#' :: _ => .blank
  | text =>
    match assignment? text with
    | none => .malformed
    | some (key, rest) =>
      match Text.trimStart rest with
      | [] => .entry key ""
      | '#' :: _ => .entry key ""
      | rest =>
        match value? environment .plain rest with
        | some value => .entry key (String.ofList value)
        | none => .malformed

/-- Adds the variables of lines up to the first malformed one. Those that are set stay as they
are. -/
def addLines : List (Option (List Char)) → Environment → Except Breakdown Environment
  | [], environment => .ok environment
  | none :: _, environment => .ok environment
  | some line :: rest, environment =>
    match readLine environment line with
    | .blank => addLines rest environment
    | .entry key value => (environment.add key value).bind (addLines rest)
    | .malformed => .ok environment

/-- Adds the variables of a file. A mark of the byte order may stand before them. -/
def addTo (text : String) (environment : Environment) : Except Breakdown Environment :=
  let text := Text.withoutMark text.toList
  addLines (joinLines [] .outside (physicalLines text)) environment

end TickScript.Config.EnvFile
