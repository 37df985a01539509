import Conform.Json.Basic

/-! # Printing JSON

Compact text has no spaces.  Indented text puts every item and member on a line
of its own, two spaces deeper than its container, and leaves empty containers
closed.  Inside strings only the quote, the backslash and the control characters
are escaped.
-/
namespace Conform.Json

def hexDigit (n : Nat) : Char := Nat.digitChar n

def escapeChar (c : Char) : List Char :=
  if c = '"' then ['\\', '"']
  else if c = '\\' then ['\\', '\\']
  else if c = '\x08' then ['\\', 'b']
  else if c = '\x0c' then ['\\', 'f']
  else if c = '\n' then ['\\', 'n']
  else if c = '\r' then ['\\', 'r']
  else if c = '\t' then ['\\', 't']
  else if c.toNat < 0x20 then
    ['\\', 'u', '0', '0', hexDigit (c.toNat / 16), hexDigit (c.toNat % 16)]
  else [c]

def quote (s : String) : String :=
  String.ofList ('"' :: s.toList.flatMap escapeChar ++ ['"'])

mutual

/-- The text of a value without spaces. -/
def compact : Json → String
  | null => "null"
  | bool b => if b then "true" else "false"
  | number n => n.text
  | string s => quote s
  | array items => "[" ++ String.intercalate "," (compactItems items) ++ "]"
  | object members => "\x7b" ++ String.intercalate "," (compactMembers members) ++ "\x7d"
termination_by structural v => v

def compactItems : List Json → List String
  | [] => []
  | item :: rest => compact item :: compactItems rest
termination_by structural items => items

def compactMembers : List (String × Json) → List String
  | [] => []
  | (key, value) :: rest => (quote key ++ ":" ++ compact value) :: compactMembers rest
termination_by structural members => members

end

/-- Lines of a container at a depth, between its brackets. -/
def block (opening closing : String) (depth : Nat) (lines : List String) : String :=
  if lines.isEmpty then opening ++ closing
  else
    let margin (n : Nat) := String.ofList ('\n' :: List.replicate (2 * n) ' ')
    opening ++ margin (depth + 1) ++
      String.intercalate ("," ++ margin (depth + 1)) lines ++ margin depth ++ closing

mutual

/-- The text of a value over several lines, as it stands at a depth. -/
def indentedAt (depth : Nat) : Json → String
  | array items => block "[" "]" depth (indentedItems depth items)
  | object members => block "\x7b" "\x7d" depth (indentedMembers depth members)
  | null => "null"
  | bool b => if b then "true" else "false"
  | number n => n.text
  | string s => quote s
termination_by structural v => v

def indentedItems (depth : Nat) : List Json → List String
  | [] => []
  | item :: rest => indentedAt (depth + 1) item :: indentedItems depth rest
termination_by structural items => items

def indentedMembers (depth : Nat) : List (String × Json) → List String
  | [] => []
  | (key, value) :: rest =>
    (quote key ++ ": " ++ indentedAt (depth + 1) value) :: indentedMembers depth rest
termination_by structural members => members

end

def indented (v : Json) : String := indentedAt 0 v

/-- The text of a value inside a message: a string stands bare. -/
def display : Json → String
  | string s => s
  | v => compact v

end Conform.Json
