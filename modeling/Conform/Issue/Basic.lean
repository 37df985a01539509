import Conform.Path.Basic
import Conform.Schema.Basic

/-! # Issues

An issue is what a check has to say, before it is worded: a code in a domain, a
path, named parameters, and the annotations of the specification concerned.  The
schema domain holds defects of the schema, the data domain the disagreements of
an input with a schema.

A check is told by a policy which issues are reported, and stops at the first of
these; an issue that is not reported lets it continue.  What it stops with is a
complaint, made of the issue: the issue itself, or a report of it in words.
-/
namespace Conform

inductive Domain where
  | schema
  | data
deriving DecidableEq, Repr

namespace Domain

def name : Domain → String
  | schema => "schema"
  | data => "data"

def parse? (text : String) : Option Domain :=
  if text = "schema" then some schema
  else if text = "data" then some data
  else none

@[simp] theorem parse?_name (d : Domain) : parse? d.name = some d := by
  cases d <;> decide

end Domain

inductive IssueCode where
  | typeof
  | requireType
  | properties
  | maxLength
  | minLength
  | maxItems
  | minItems
  | minLengthMinimum
  | minItemsMinimum
  | invalidPath
  | nestedEnum
  | pattern
  | required
  | enum
  | unexpectedKey
  | minimum
  | maximum
  | exclusiveMinimum
  | exclusiveMaximum
deriving DecidableEq, Repr

namespace IssueCode

def all : List IssueCode :=
  [typeof, requireType, properties, maxLength, minLength, maxItems, minItems,
    minLengthMinimum, minItemsMinimum, invalidPath, nestedEnum, pattern, required, enum,
    unexpectedKey, minimum, maximum, exclusiveMinimum, exclusiveMaximum]

def name : IssueCode → String
  | typeof => "typeof"
  | requireType => "requireType"
  | properties => "properties"
  | maxLength => "maxLength"
  | minLength => "minLength"
  | maxItems => "maxItems"
  | minItems => "minItems"
  | minLengthMinimum => "minLengthMinimum"
  | minItemsMinimum => "minItemsMinimum"
  | invalidPath => "invalidPath"
  | nestedEnum => "nestedEnum"
  | pattern => "pattern"
  | required => "required"
  | enum => "enum"
  | unexpectedKey => "unexpectedKey"
  | minimum => "minimum"
  | maximum => "maximum"
  | exclusiveMinimum => "exclusiveMinimum"
  | exclusiveMaximum => "exclusiveMaximum"

def parse? (text : String) : Option IssueCode := all.find? fun code => code.name = text

def unknownMessage (text : String) : String := "unknown issue code `" ++ text ++ "`"

@[simp] theorem parse?_name (code : IssueCode) : parse? code.name = some code := by
  cases code <;> decide

end IssueCode

/-- An issue with the parameters for its wording. -/
structure Issue where
  domain : Domain
  code : IssueCode
  path : Path
  params : List (String × String) := []
  annotations : Annotations := {}
deriving Repr

/-- All parameters for the wording.  An unexpected key is named apart from the
object that holds it; every other issue is placed at its own path. -/
def Issue.parameters (i : Issue) : List (String × String) :=
  match i.code, i.path.getLast? with
  | .unexpectedKey, some last =>
    i.params ++ [("key", last.text), ("path", Path.text i.path.dropLast)]
  | _, _ => i.params ++ [("path", i.path.text)]

/-- What a check can stop with.  Once it is made, only its domain is looked at. -/
class Complaint (ε : Type) where
  ofIssue : Issue → ε
  domain : ε → Domain
  domain_ofIssue : ∀ i, domain (ofIssue i) = i.domain

@[default_instance]
instance : Complaint Issue := ⟨id, Issue.domain, fun _ => rfl⟩

@[simp] theorem Complaint.domain_issue (i : Issue) : Complaint.domain i = i.domain := rfl

/-- Which issues a check reports, and how it reads patterns: a pattern that
cannot be read has no matcher. -/
structure Policy where
  reports : Domain → IssueCode → Bool
  matcher? : String → Option (String → Bool)

namespace Policy

/-- Stop at an issue if it is reported. -/
def raise {ε : Type} [Complaint ε] (p : Policy) (i : Issue) : Except ε Unit :=
  if p.reports i.domain i.code then .error (Complaint.ofIssue i) else .ok ()

theorem raise_def (p : Policy) (i : Issue) :
    p.raise i = if p.reports i.domain i.code then .error i else .ok () := rfl

theorem raise_eq_ok_iff (p : Policy) (i : Issue) :
    p.raise i = .ok () ↔ p.reports i.domain i.code = false := by
  rw [raise_def]
  cases p.reports i.domain i.code <;> simp

theorem raise_eq_error_iff (p : Policy) (i j : Issue) :
    p.raise i = .error j ↔ p.reports i.domain i.code = true ∧ i = j := by
  rw [raise_def]
  cases p.reports i.domain i.code <;> simp

end Policy
end Conform
