import Conform.Path.Basic

/-! # Reading paths

A path text is scanned once from left to right.  Segments are separated by
points outside brackets; a bracket holds a plain segment or a quoted key, in
which a backslash takes the next character as it is.  An unquoted segment is an
index exactly when it is a canonical decimal.
-/
namespace Conform.Path

/-- Why a text is not a path. -/
inductive Fault where
  | emptyPath
  | emptySegment
  | nestedBracket
  | unmatchedBracket
  | unclosedBracket
  | textAfterQuote
  | textAfterBracket
deriving DecidableEq, Repr

def Fault.reason : Fault → String
  | emptyPath => "path is empty"
  | emptySegment => "empty segment"
  | nestedBracket => "nested `[`"
  | unmatchedBracket => "unmatched `]`"
  | unclosedBracket => "unclosed `[`"
  | textAfterQuote => "expected `]` after closing quote"
  | textAfterBracket => "expected `.` or `[` after `]`"

/-- A fault and the offset in bytes at which it is seen. -/
structure SyntaxError where
  offset : Nat
  fault : Fault
deriving DecidableEq, Repr

def SyntaxError.reason (e : SyntaxError) : String := e.fault.reason

def SyntaxError.message (text : String) (e : SyntaxError) : String :=
  "invalid path `" ++ text ++ "` at offset " ++ toString e.offset ++ ": " ++ e.reason

def plainSegment (text : List Char) : Segment :=
  match canonicalIndex? text with
  | some n => .index n
  | none => .key (String.ofList text)

/-- Where the scan stands.  Inside a bracket the offset of its opening is kept. -/
inductive Place where
  | segmentStart
  | inKey (text : List Char)
  | inBracket (opened : Nat) (text : List Char)
  | inQuotes (opened : Nat) (quote : Char) (text : List Char)
  | inEscape (opened : Nat) (quote : Char) (text : List Char)
  | afterQuote (opened : Nat) (text : List Char)
  | afterBracket
deriving DecidableEq, Repr

/-- A scan in progress: the segments that are complete and the place. -/
structure Scan where
  segments : Path
  place : Place
deriving DecidableEq, Repr

def Scan.step (s : Scan) (offset : Nat) (c : Char) : Except SyntaxError Scan :=
  match s.place with
  | .inQuotes opened quote text =>
    if c = '\\' then .ok { s with place := .inEscape opened quote text }
    else if c = quote then .ok { s with place := .afterQuote opened text }
    else .ok { s with place := .inQuotes opened quote (text ++ [c]) }
  | .inEscape opened quote text =>
    .ok { s with place := .inQuotes opened quote (text ++ [c]) }
  | .afterQuote _ text =>
    if c = ']' then .ok ⟨s.segments ++ [.key (String.ofList text)], .afterBracket⟩
    else .error ⟨offset, .textAfterQuote⟩
  | .inBracket opened text =>
    if text = [] ∧ (c = '"' ∨ c = '\'') then .ok { s with place := .inQuotes opened c [] }
    else if c = ']' then
      if text = [] then .error ⟨opened, .emptySegment⟩
      else .ok ⟨s.segments ++ [plainSegment text], .afterBracket⟩
    else if c = '[' then .error ⟨offset, .nestedBracket⟩
    else .ok { s with place := .inBracket opened (text ++ [c]) }
  | .segmentStart =>
    if c = '[' then .ok { s with place := .inBracket offset [] }
    else if c = '.' then .error ⟨offset, .emptySegment⟩
    else if c = ']' then .error ⟨offset, .unmatchedBracket⟩
    else .ok { s with place := .inKey [c] }
  | .inKey text =>
    if c = '[' then .ok ⟨s.segments ++ [plainSegment text], .inBracket offset []⟩
    else if c = '.' then .ok ⟨s.segments ++ [plainSegment text], .segmentStart⟩
    else if c = ']' then .error ⟨offset, .unmatchedBracket⟩
    else .ok { s with place := .inKey (text ++ [c]) }
  | .afterBracket =>
    if c = '[' then .ok { s with place := .inBracket offset [] }
    else if c = '.' then .ok { s with place := .segmentStart }
    else if c = ']' then .error ⟨offset, .unmatchedBracket⟩
    else .error ⟨offset, .textAfterBracket⟩

/-- End the scan at the length of the text. -/
def Scan.finish (s : Scan) (length : Nat) : Except SyntaxError Path :=
  match s.place with
  | .inKey text => .ok (s.segments ++ [plainSegment text])
  | .afterBracket => .ok s.segments
  | .inBracket opened _ | .inQuotes opened _ _ | .inEscape opened _ _ | .afterQuote opened _ =>
    .error ⟨opened, .unclosedBracket⟩
  | .segmentStart => .error ⟨length, .emptySegment⟩

def Scan.run (s : Scan) (offset : Nat) : List Char → Except SyntaxError Path
  | [] => s.finish offset
  | c :: rest =>
    match s.step offset c with
    | .ok next => next.run (offset + c.utf8Size) rest
    | .error e => .error e

def parseChars (cs : List Char) : Except SyntaxError Path :=
  if cs = [] then .error ⟨0, .emptyPath⟩ else Scan.run ⟨[], .segmentStart⟩ 0 cs

def parse (text : String) : Except SyntaxError Path := parseChars text.toList

end Conform.Path
