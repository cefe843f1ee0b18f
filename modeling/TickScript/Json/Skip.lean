import TickScript.Json.Reader

/-! Passing over JSON documents that nobody asks for. Only their grammar counts:
they may be nested to any depth, numbers may be beyond all range, and the halves
of a pair may stand alone. -/
namespace TickScript.Json

def skipEscape? : List Char → Option (List Char)
  | 'u' :: rest => (unit? rest).map Prod.snd
  | rest => (escaped? rest).map Prod.snd

/-- Passes over the rest of a string after its opening quote. -/
def skipString? : Nat → List Char → Option (List Char)
  | 0, _ => none
  | _ + 1, [] => none
  | steps + 1, c :: rest =>
    if c = '"' then some rest
    else if c = '\\' then
      match skipEscape? rest with
      | some rest => skipString? steps rest
      | none => none
    else if c.toNat < 0x20 then none
    else skipString? steps rest

/-- Passes over a document that is neither a list nor an object. -/
def skipScalar? : List Char → Option (List Char)
  | '"' :: rest => skipString? (rest.length + 1) rest
  | 'n' :: rest => word? ['u', 'l', 'l'] rest
  | 't' :: rest => word? ['r', 'u', 'e'] rest
  | 'f' :: rest => word? ['a', 'l', 's', 'e'] rest
  | text => (numeral? text).map Prod.snd

/-- Passes over the key of a field and the colon after it. -/
def skipKey? : List Char → Option (List Char)
  | '"' :: rest =>
    match skipString? (rest.length + 1) rest with
    | some rest =>
      match skipSpace rest with
      | ':' :: rest => some rest
      | _ => none
    | none => none
  | _ => none

/-- What may come next while a document is passed over. -/
inductive Expected
  | value
  /-- The first item of a list, or its end. -/
  | firstItem
  | field
  /-- The first field of an object, or its end. -/
  | firstField
  /-- A comma or the end of what is open. -/
  | rest
  deriving DecidableEq, Repr

/-- Passes over a document whose open lists and objects end with the given brackets, the innermost
first. Every step takes at least one character. -/
def skipOpen? : Nat → Expected → List Char → List Char → Option (List Char)
  | 0, _, _, _ => none
  | _ + 1, .rest, [], text => some text
  | steps + 1, expected, closers, text =>
    match expected, closers, skipSpace text with
    | .firstItem, _ :: closers, ']' :: text => skipOpen? steps .rest closers text
    | .firstField, _ :: closers, '\x7d' :: text => skipOpen? steps .rest closers text
    | .rest, closer :: closers, c :: text =>
      if c = closer then skipOpen? steps .rest closers text
      else if c = ',' then
        skipOpen? steps (if closer = ']' then .value else .field) (closer :: closers) text
      else none
    | .rest, _, _ => none
    | .firstField, closers, text | .field, closers, text =>
      match skipKey? text with
      | some text => skipOpen? steps .value closers text
      | none => none
    | _, closers, '[' :: text => skipOpen? steps .firstItem (']' :: closers) text
    | _, closers, '\x7b' :: text => skipOpen? steps .firstField ('\x7d' :: closers) text
    | _, closers, text =>
      match skipScalar? text with
      | some text => skipOpen? steps .rest closers text
      | none => none

/-- Passes over the document at the front of a text. -/
def skipValue? (text : List Char) : Option (List Char) :=
  skipOpen? (text.length + 2) .value [] text

end TickScript.Json
