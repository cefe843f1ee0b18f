import TickScript.Json.Skip
import TickScript.Value.Tagged

/-! Reading values from JSON text in their tagged form. Fields without a meaning
are passed over and may hold what could not be read. -/
namespace TickScript.Value

mutual

/-- The document of a value in tagged form at the front of a text. -/
def readTagged? : Nat → Nat → List Char → Option (Json × List Char)
  | 0, _, _ => none
  | steps + 1, depth, text =>
    match depth, Json.skipSpace text with
    | depth + 1, '[' :: text => do
      let (tag, text) ← Json.readValue? steps depth text
      match Json.skipSpace text with
      | ',' :: text =>
        let (content, text) ← readContent? steps depth (Kind.ofTag? false tag) text
        match Json.skipSpace text with
        | ']' :: text => some (.list [tag, content], text)
        | _ => none
      | _ => none
    | depth + 1, '\x7b' :: text =>
      (readParts? steps depth none text).map fun (fields, text) => (.object fields, text)
    | _, _ => none
termination_by structural steps => steps

/-- The content of a value of a kind, if the kind is known yet. -/
def readContent? : Nat → Nat → Option Kind → List Char → Option (Json × List Char)
  | 0, _, _, _ => none
  | steps + 1, depth, kind, text =>
    match kind, depth, Json.skipSpace text with
    | some .list, depth + 1, '[' :: text =>
      match Json.skipSpace text with
      | ']' :: text => some (.list [], text)
      | text => (readItems? steps depth text).map fun (items, text) => (.list items, text)
    | _, _, text => Json.readValue? steps depth text
termination_by structural steps => steps

/-- The items of a list value up to its closing bracket. -/
def readItems? : Nat → Nat → List Char → Option (List Json × List Char)
  | 0, _, _ => none
  | steps + 1, depth, text => do
    let (item, text) ← readTagged? steps depth text
    match Json.skipSpace text with
    | ',' :: text =>
      let (items, text) ← readItems? steps depth text
      some (item :: items, text)
    | ']' :: text => some ([item], text)
    | _ => none
termination_by structural steps => steps

/-- The tag and the content among the fields of an object up to its closing brace. -/
def readParts? : Nat → Nat → Option Kind → List Char → Option (List (String × Json) × List Char)
  | 0, _, _, _ => none
  | steps + 1, depth, kind, text =>
    match Json.skipSpace text with
    | '"' :: text => do
      let (key, text) ← Json.string? text
      match Json.skipSpace text with
      | ':' :: text =>
        let (part, text) ←
          if key = "t" then (Json.readValue? steps depth text).map fun (v, text) => (some v, text)
          else if key = "v" then
            (readContent? steps depth kind text).map fun (v, text) => (some v, text)
          else (Json.skipValue? text).map fun text => (none, text)
        let kind := if key = "t" then part.bind (Kind.ofField? false) else kind
        let fields := (part.map (key, ·)).toList
        match Json.skipSpace text with
        | ',' :: text =>
          let (others, text) ← readParts? steps depth kind text
          some (fields ++ others, text)
        | '\x7d' :: text => some (fields, text)
        | _ => none
      | _ => none
    | _ => none
termination_by structural steps => steps

end

/-- The value that makes up a whole text. -/
def read? (text : String) : Option Value := do
  let text := text.toList
  let (document, rest) ← readTagged? (2 * text.length + 2) Json.maxDepth text
  if (Json.skipSpace rest).isEmpty then ofTagged? false document else none

end TickScript.Value
