import Conform.Json.Token
import Conform.Json.Basic
import Conform.Number.Basic

/-! # JSON documents as written

A document keeps what the text says: number literals, code units of strings, and
every member of an object, repeated keys included.  It is built from tokens by a
machine whose stack holds the containers that are still open.
-/
namespace Conform.Json

inductive Document where
  | null
  | bool (value : Bool)
  | number (literal : Number.Literal)
  | string (units : List TextUnit)
  | array (items : List Document)
  | object (members : List (List TextUnit × Document))

namespace Document

def ofWord? (text : List Char) : Option Document :=
  if text = ['n', 'u', 'l', 'l'] then some null
  else if text = ['t', 'r', 'u', 'e'] then some (bool true)
  else if text = ['f', 'a', 'l', 's', 'e'] then some (bool false)
  else number <$> Number.Literal.parse? text

/-- An open container with what precedes the part being read, in reverse. -/
inductive Frame where
  | array (items : List Document)
  | object (members : List (List TextUnit × Document)) (key : List TextUnit)

/-- What may come next, and the containers around it. -/
inductive State where
  | value (frames : List Frame)
  | firstItem (frames : List Frame)
  | firstKey (frames : List Frame)
  | key (members : List (List TextUnit × Document)) (frames : List Frame)
  | colon (members : List (List TextUnit × Document)) (key : List TextUnit)
      (frames : List Frame)
  | after (value : Document) (frames : List Frame)

def beginValue (frames : List Frame) : Token → Option State
  | .openArray => some (.firstItem frames)
  | .openObject => some (.firstKey frames)
  | .string units => some (.after (string units) frames)
  | .word text => (State.after · frames) <$> ofWord? text
  | _ => none

def step : State → Token → Option State
  | .value frames, token => beginValue frames token
  | .firstItem frames, .closeArray => some (.after (array []) frames)
  | .firstItem frames, token => beginValue (.array [] :: frames) token
  | .firstKey frames, .closeObject => some (.after (object []) frames)
  | .firstKey frames, .string key => some (.colon [] key frames)
  | .key members frames, .string key => some (.colon members key frames)
  | .colon members key frames, .colon => some (.value (.object members key :: frames))
  | .after v (.array items :: frames), .comma => some (.value (.array (v :: items) :: frames))
  | .after v (.array items :: frames), .closeArray =>
    some (.after (array (v :: items).reverse) frames)
  | .after v (.object members key :: frames), .comma => some (.key ((key, v) :: members) frames)
  | .after v (.object members key :: frames), .closeObject =>
    some (.after (object ((key, v) :: members).reverse) frames)
  | _, _ => none

def finish? : State → Option Document
  | .after v [] => some v
  | _ => none

/-- Read one document; nothing but blanks may follow it. -/
def parse? (text : String) : Option Document := do
  let tokens ← Token.scan? text.toList
  let state ← tokens.foldlM step (.value [])
  finish? state

def textOf? (units : List TextUnit) : Option String := String.ofList <$> TextUnit.join? units

mutual

/-- The value that a document denotes.  It is refused when containers nest more
than `levels` deep, a number is out of range or a surrogate stands alone; the
last value of a repeated key counts. -/
def value? (levels : Nat) : Document → Option Json
  | null => some .null
  | bool b => some (.bool b)
  | number literal => Json.number <$> literal.value?
  | string units => Json.string <$> textOf? units
  | array items =>
    if levels = 0 then none else Json.array <$> itemValues? (levels - 1) items
  | object members =>
    if levels = 0 then none
    else (Json.object ∘ Table.ofEntries) <$> memberValues? (levels - 1) members
termination_by structural d => d

def itemValues? (levels : Nat) : List Document → Option (List Json)
  | [] => some []
  | item :: rest => do
    let v ← value? levels item
    let vs ← itemValues? levels rest
    return v :: vs
termination_by structural items => items

def memberValues? (levels : Nat) : List (List TextUnit × Document) →
    Option (List (String × Json))
  | [] => some []
  | (key, value) :: rest => do
    let k ← textOf? key
    let v ← value? levels value
    let vs ← memberValues? levels rest
    return (k, v) :: vs
termination_by structural members => members

end

end Document

def maxLevels : Nat := 127

/-- Read a text that holds one JSON value. -/
def parse? (text : String) : Option Json := Document.parse? text >>= Document.value? maxLevels

end Conform.Json
