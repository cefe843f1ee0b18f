import TickScript.Binary64
import TickScript.Table

/-! JSON documents. Numbers keep the class their spelling gives them: an integer
is a number without point and exponent that fits 64 bits, signed or not, every
other number is a binary64 number. -/
namespace TickScript

inductive Json
  | null
  | bool (b : Bool)
  | int (n : Int)
  | float (x : Binary64)
  | str (s : String)
  | list (items : List Json)
  | object (fields : List (String × Json))
  deriving Inhabited

namespace Json

/-- What messages call a document of each form. -/
inductive Kind
  | null | bool | number | string | list | object
  deriving DecidableEq, Repr

def Kind.name : Kind → String
  | null => "null"
  | bool => "bool"
  | number => "number"
  | string => "string"
  | list => "list"
  | object => "object"

def kind : Json → Kind
  | .null => .null
  | .bool _ => .bool
  | .int _ => .number
  | .float _ => .number
  | .str _ => .string
  | .list _ => .list
  | .object _ => .object

mutual

/-- The document with every object's keys in increasing order, the last value of a repeated key
kept. -/
def canonical : Json → Json
  | .list items => .list (canonicalItems items)
  | .object fields => .object (Table.ofList (canonicalFields fields)).entries
  | other => other

def canonicalItems : List Json → List Json
  | [] => []
  | item :: rest => item.canonical :: canonicalItems rest

def canonicalFields : List (String × Json) → List (String × Json)
  | [] => []
  | (key, value) :: rest => (key, value.canonical) :: canonicalFields rest

end

mutual

/-- Every object in the document has its keys in increasing order, none twice. -/
def IsCanonical : Json → Prop
  | .list items => AreCanonical items
  | .object fields => fields.Pairwise (fun a b => a.1 < b.1) ∧ HaveCanonical fields
  | _ => True

def AreCanonical : List Json → Prop
  | [] => True
  | item :: rest => item.IsCanonical ∧ AreCanonical rest

def HaveCanonical : List (String × Json) → Prop
  | [] => True
  | (_, value) :: rest => value.IsCanonical ∧ HaveCanonical rest

end

def isNull : Json → Bool
  | .null => true
  | _ => false

/-- The value under a key of an object. -/
def field? (document : Json) (key : String) : Option Json :=
  match document with
  | .object fields => fields.lookup key
  | _ => none

def int? : Json → Option Int
  | .int n => some n
  | _ => none

def bool? : Json → Option Bool
  | .bool b => some b
  | _ => none

def list? : Json → Option (List Json)
  | .list items => some items
  | _ => none

def object? : Json → Option (List (String × Json))
  | .object fields => some fields
  | _ => none

def str? : Json → Option String
  | .str s => some s
  | _ => none

def items : Json → List Json
  | .list items => items
  | _ => []

/-- Induction on documents, from the items and fields to the whole. Of a list under a key, the items
may be taken for granted as well. -/
theorem induct {P : Json → Prop} (null : P .null) (bool : ∀ b, P (.bool b))
    (int : ∀ n, P (.int n)) (float : ∀ x, P (.float x)) (str : ∀ s, P (.str s))
    (list : ∀ items, (∀ item ∈ items, P item) → P (.list items))
    (object : ∀ fields, (∀ field ∈ fields, P field.2 ∧ ∀ item ∈ field.2.items, P item) →
      P (.object fields)) (document : Json) : P document :=
  let Both (document : Json) : Prop := P document ∧ ∀ item ∈ document.items, P item
  And.left <| @Json.rec Both (fun items => ∀ item ∈ items, P item)
    (fun fields => ∀ field ∈ fields, Both field.2) (fun field => Both field.2)
    ⟨null, nofun⟩ (fun b => ⟨bool b, nofun⟩) (fun n => ⟨int n, nofun⟩) (fun x => ⟨float x, nofun⟩)
    (fun s => ⟨str s, nofun⟩) (fun items each => ⟨list items each, each⟩)
    (fun fields each => ⟨object fields each, nofun⟩) nofun
    (fun _ _ first rest => List.forall_mem_cons.mpr ⟨first.1, rest⟩) nofun
    (fun _ _ first rest => List.forall_mem_cons.mpr ⟨first, rest⟩) (fun _ _ value => value) document

end Json
end TickScript
