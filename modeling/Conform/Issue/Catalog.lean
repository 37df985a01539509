import Conform.Issue.Report
import Conform.Issue.Template

/-! # Template catalogs

A catalog holds the templates of each domain by the name of the code.  An issue
without a template is not reported at all, so a catalog decides which issues
exist as well as how they are worded.
-/
namespace Conform

/-- Templates by the name of a code, for each domain.  Names that are no code
are kept and never consulted. -/
structure Catalog where
  schema : Table String
  data : Table String
deriving DecidableEq, Repr, Inhabited

namespace Catalog

def empty : Catalog := ⟨[], []⟩

def table (c : Catalog) : Domain → Table String
  | .schema => c.schema
  | .data => c.data

def template? (c : Catalog) (domain : Domain) (code : IssueCode) : Option String :=
  (c.table domain).get? code.name

def covers (c : Catalog) (domain : Domain) (code : IssueCode) : Bool :=
  (c.template? domain code).isSome

def modify (c : Catalog) (domain : Domain) (f : Table String → Table String) : Catalog :=
  match domain with
  | .schema => { c with schema := f c.schema }
  | .data => { c with data := f c.data }

def set (c : Catalog) (domain : Domain) (code : IssueCode) (template : String) : Catalog :=
  c.modify domain fun t => t.insert code.name template

def unset (c : Catalog) (domain : Domain) (code : IssueCode) : Catalog :=
  c.modify domain fun t => t.erase code.name

/-- All templates of both catalogs, those of the second taking precedence. -/
def merge (c overrides : Catalog) : Catalog :=
  ⟨c.schema.merge overrides.schema, c.data.merge overrides.data⟩

/-- Two catalogs give every name the same template. -/
def sameTables (c d : Catalog) : Bool :=
  let within (s t : Table String) := s.all fun entry => t.get? entry.1 = s.get? entry.1
  within c.schema d.schema && within d.schema c.schema &&
    within c.data d.data && within d.data c.data

def report (c : Catalog) (i : Issue) : Report where
  domain := i.domain
  code := i.code
  path := i.path
  message := render ((c.template? i.domain i.code).getD "") i.parameters
  annotations := i.annotations

/-- The report of an issue, if the catalog has a template for it. -/
def report? (c : Catalog) (i : Issue) : Option Report :=
  if c.covers i.domain i.code then some (c.report i) else none

def boundTemplate : String := "`$bound` at $path must be a number"

def vacuousTemplate : String := "`$bound` at $path must be greater than 0"

def builtin : Catalog where
  schema := [
    ("typeof", "Invalid type `$type` at $path, allowed types: $allowedTypes"),
    ("requireType", "Schema at $path requires a `type`"),
    ("properties", "`properties` at $path must be an object"),
    ("maxLength", boundTemplate),
    ("minLength", boundTemplate),
    ("maxItems", boundTemplate),
    ("minItems", boundTemplate),
    ("minLengthMinimum", vacuousTemplate),
    ("minItemsMinimum", vacuousTemplate),
    ("invalidPath", "Invalid path `$expression` in condition at $path: $reason"),
    ("nestedEnum", "Nested enum at $path is not allowed"),
    ("pattern", "Invalid pattern `$pattern` at $path")]
  data := [
    ("required", "$path is required"),
    ("typeof", "$path must be of type $type"),
    ("enum", "Invalid value at $path, allowed values: $enums"),
    ("maxItems", "$path must contain at most $maxItems items"),
    ("minItems", "$path must contain at least $minItems items"),
    ("maxLength", "$path must be at most $maxLength characters long"),
    ("minLength", "$path must be at least $minLength characters long"),
    ("pattern", "$path does not match the pattern $pattern"),
    ("unexpectedKey", "Unexpected key `$key` in $path"),
    ("minimum", "$path must be greater than or equal to $minimum"),
    ("maximum", "$path must be less than or equal to $maximum"),
    ("exclusiveMinimum", "$path must be greater than $exclusiveMinimum"),
    ("exclusiveMaximum", "$path must be less than $exclusiveMaximum")]

/-- A table of templates: an object of strings. -/
def tableOf? : Json.Document → Option (Table String)
  | .object members => do
    let entries ← members.mapM fun (key, value) => do
      let name ← Json.Document.textOf? key
      match value with
      | .string units => do
        let template ← Json.Document.textOf? units
        return (name, template)
      | _ => none
    return Table.ofEntries entries
  | _ => none

/-- The table at a field: empty if the field is missing, refused if it occurs
more than once. -/
def fieldTable? (members : List (String × Json.Document)) (name : String) :
    Option (Table String) :=
  match members.filter fun m => m.1 = name with
  | [] => some []
  | [m] => tableOf? m.2
  | _ => none

/-- A catalog is an object with the fields `schema` and `data`, or a list of
their two tables; what other fields hold does not matter. -/
def ofDocument? : Json.Document → Option Catalog
  | .object members => do
    let members ← members.mapM fun (key, value) => do
      let name ← Json.Document.textOf? key
      return (name, value)
    return ⟨← fieldTable? members "schema", ← fieldTable? members "data"⟩
  | .array [] => some empty
  | .array [schema] => do return ⟨← tableOf? schema, []⟩
  | .array [schema, data] => do return ⟨← tableOf? schema, ← tableOf? data⟩
  | _ => none

def parse? (text : String) : Option Catalog := Json.Document.parse? text >>= ofDocument?

end Catalog
end Conform
