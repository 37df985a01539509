import Conform.Issue.Basic
import Conform.Json.Document

/-! # Reports

A report is a worded issue.  Its JSON form has the domain, the code, the path as
a list of indices and keys, the message, and the annotations that are present.
Reading is more liberal: members may come in any order, unknown ones are
ignored, a null annotation counts as absent, and a list of the fields in their
order is accepted as well.
-/
namespace Conform

structure Report where
  domain : Domain
  code : IssueCode
  path : Path
  message : String
  annotations : Annotations
deriving Repr

namespace Segment

def toJson : Segment → Json
  | index n => .number (.integer n)
  | key k => .string k

def ofJson? : Json → Option Segment
  | .number (.integer n) => if 0 ≤ n then some (index n.toNat) else none
  | .string k => some (key k)
  | _ => none

@[simp] theorem ofJson?_toJson (s : Segment) : ofJson? s.toJson = some s := by
  cases s <;> simp [toJson, ofJson?]

end Segment

namespace Path

def toJson (p : Path) : Json := .array (p.map Segment.toJson)

def ofJson? : Json → Option Path
  | .array items => items.mapM Segment.ofJson?
  | _ => none

@[simp] theorem ofJson?_toJson (p : Path) : ofJson? p.toJson = some p := by
  unfold toJson ofJson?
  induction p with
  | nil => rfl
  | cons s rest ih =>
    simp only [List.map_cons, List.mapM_cons, Segment.ofJson?_toJson, ih]
    rfl

end Path

/-- A code is written as its name; a list of one member is read as well, if that
member is empty. -/
def IssueCode.ofJson? : Json → Option IssueCode
  | .string name => parse? name
  | .object [(name, .null)] => parse? name
  | .object [(name, .object [])] => parse? name
  | _ => none

def Annotations.toMembers (a : Annotations) : List (String × Json) :=
  let member (name : String) (v : Option Json) := (v.map fun v => (name, v)).toList
  member "title" a.title ++ member "description" a.description ++
    member "examples" a.examples ++ member "default" a.default

namespace Report

def toJson (r : Report) : Json :=
  .object ([("domain", .string r.domain.name), ("code", .string r.code.name),
    ("path", r.path.toJson), ("message", .string r.message)] ++ r.annotations.toMembers)

/-- The values of a field; more than one is refused. -/
def field? (ms : List (String × Json)) (name : String) : Option (Option Json) :=
  match ms.filter fun m => m.1 = name with
  | [] => some none
  | [m] => some (some m.2)
  | _ => none

def presence (v : Option Json) : Option Json := v.filter fun v => !v.isNull

def ofFields? (domain code path message : Json)
    (title description examples default : Option Json) : Option Report := do
  let domain ← domain.string? >>= Domain.parse?
  let code ← IssueCode.ofJson? code
  let path ← Path.ofJson? path
  let message ← message.string?
  return { domain, code, path, message, annotations := {
    title := presence title, description := presence description,
    examples := presence examples, default := presence default } }

def ofMembers? (ms : List (String × Json)) : Option Report := do
  let domain ← field? ms "domain"
  let code ← field? ms "code"
  let path ← field? ms "path"
  let message ← field? ms "message"
  ofFields? (← domain) (← code) (← path) (← message)
    (← field? ms "title") (← field? ms "description")
    (← field? ms "examples") (← field? ms "default")

def ofItems? : List Json → Option Report
  | domain :: code :: path :: message :: rest =>
    if rest.length ≤ 4 then
      ofFields? domain code path message rest[0]? rest[1]? rest[2]? rest[3]?
    else none
  | _ => none

def ofJson? : Json → Option Report
  | .object ms => ofMembers? ms
  | .array items => ofItems? items
  | _ => none

/-- Read a report from text, in which a repeated field is refused. -/
def parse? (text : String) : Option Report := do
  match ← Json.Document.parse? text with
  | .object members =>
    let ms ← Json.Document.memberValues? (Json.maxLevels - 1) members
    ofMembers? ms
  | .array items =>
    let items ← Json.Document.itemValues? (Json.maxLevels - 1) items
    ofItems? items
  | _ => none

end Report
end Conform
