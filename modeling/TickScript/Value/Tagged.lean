import TickScript.Value
import TickScript.Json

/-! Values as JSON documents that keep their kind: an object with the kind under
`t` and the content under `v`. Reading also takes a list of the two. -/
namespace TickScript.Value

mutual

def toTagged : Value → Json
  | .null => .object [("t", .str "Null")]
  | .bool b => .object [("t", .str "Bool"), ("v", .bool b)]
  | .int n => .object [("t", .str "Int"), ("v", .int n.toInt)]
  | .float x => .object [("t", .str "Float"), ("v", .float x)]
  | .str s => .object [("t", .str "Str"), ("v", .str s)]
  | .list items => .object [("t", .str "List"), ("v", .list (toTaggedItems items))]

def toTaggedItems : List Value → List Json
  | [] => []
  | item :: rest => item.toTagged :: toTaggedItems rest

end

/-- The kinds in the order of their numbers. -/
def Kind.tags : List (String × Kind) :=
  [("Null", .null), ("Bool", .bool), ("Int", .int), ("Float", .float), ("Str", .string),
    ("List", .list)]

/-- A kind as the first item of a list: by its name or, inside a document that is read a second time
after its tag was found, by its number. -/
def Kind.ofTag? (again : Bool) : Json → Option Kind
  | .str tag => tags.lookup tag
  | .int n => if again && 0 ≤ n then (tags[n.toNat]?).map Prod.snd else none
  | _ => none

/-- A kind under the key `t`: by its name, alone or with null as the only field of an object. A
document that is read a second time may have an empty object for null there. -/
def Kind.ofField? (again : Bool) : Json → Option Kind
  | .str tag => tags.lookup tag
  | .object [(tag, .null)] => tags.lookup tag
  | .object [(tag, .object [])] => if again then tags.lookup tag else none
  | _ => none

/-- What a document can be read as, for every kind. -/
structure Contents where
  isNull : Bool := false
  bool? : Option Bool := none
  int? : Option Int64 := none
  float? : Option Binary64 := none
  str? : Option String := none
  list? : Option (List Value) := none

/-- The value of a kind with the given content, where null has none. -/
def ofContents? (contents : Contents) : Kind → Option Value
  | .null => if contents.isNull then some .null else none
  | .bool => contents.bool?.map .bool
  | .int => contents.int?.map .int
  | .float => contents.float?.map .float
  | .string => contents.str?.map .str
  | .list => contents.list?.map .list

mutual

/-- The contents of a document, read for the first time or `again`. -/
def contents (again : Bool) : Json → Contents
  | .null => { isNull := true }
  | .bool b => { bool? := some b }
  | .int n => { int? := fitInt64? n, float? := some (.ofInt n) }
  | .float x => { float? := some x }
  | .str s => { str? := some s }
  | .list items => { list? := ofTaggedItems? again items }
  | .object _ => {}

def ofTagged? (again : Bool) : Json → Option Value
  | .list [tag, content] =>
    (Kind.ofTag? again tag).bind (ofContents? (contents again content))
  | .object fields => ofTaggedFields? again none none fields
  | _ => none

def ofTaggedItems? (again : Bool) : List Json → Option (List Value)
  | [] => some []
  | item :: rest =>
    match ofTagged? again item, ofTaggedItems? again rest with
    | some value, some values => some (value :: values)
    | _, _ => none

/-- A value from a tag and a content, each at most once, among other fields. Content that stands
before the tag is kept and read again. Only null may do without content. -/
def ofTaggedFields? (again : Bool) (kind : Option Kind) (found : Option Contents) :
    List (String × Json) → Option Value
  | [] =>
    match kind, found with
    | some kind, some found => ofContents? found kind
    | some .null, none => some .null
    | _, _ => none
  | (key, value) :: rest =>
    if key = "t" then
      match kind, Kind.ofField? again value with
      | none, some kind => ofTaggedFields? again (some kind) found rest
      | _, _ => none
    else if key = "v" then
      match found with
      | none => ofTaggedFields? again kind (some (contents (again || kind.isNone) value)) rest
      | some _ => none
    else ofTaggedFields? again kind found rest

end

end TickScript.Value
