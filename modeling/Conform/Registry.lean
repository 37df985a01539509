import Conform.Check

/-! # Named schemas

A registry keeps schemas by name.  Registering a name again replaces its schema.
-/
namespace Conform

structure Registry where
  schemas : Table Node
deriving Inhabited

namespace Registry

def empty : Registry := ⟨[]⟩

def register (r : Registry) (name : String) (schema : Node) : Registry :=
  ⟨r.schemas.insert name schema⟩

def get? (r : Registry) (name : String) : Option Node := r.schemas.get? name

def notRegisteredMessage (name : String) : String := "schema `" ++ name ++ "` not registered"

/-- Why a named validation fails. -/
inductive Failure where
  | notRegistered (name : String)
  | invalid (report : Report)

def find (r : Registry) (name : String) : Except Failure Node :=
  match r.get? name with
  | none => .error (.notRegistered name)
  | some schema => .ok schema

def validateWith (matcher? : String → Option (String → Bool)) (c : Catalog) (r : Registry)
    (name : String) (input : Json) : Except Failure Unit := do
  let schema ← r.find name
  (Conform.validateWith matcher? c schema input).mapError .invalid

/-- Validate under the built-in catalog. -/
def validate (matcher? : String → Option (String → Bool)) (r : Registry) (name : String)
    (input : Json) : Except Failure Unit :=
  r.validateWith matcher? Catalog.builtin name input

/-- All names with their schemas, in the order of the names. -/
def snapshot (r : Registry) : List (String × Node) :=
  r.schemas.mergeSort fun a b => a.1 ≤ b.1

theorem get?_register_self (r : Registry) (name : String) (schema : Node) :
    (r.register name schema).get? name = some schema :=
  Table.get?_insert_self ..

theorem get?_register_of_ne (r : Registry) {name other : String} (schema : Node)
    (h : name ≠ other) : (r.register name schema).get? other = r.get? other :=
  Table.get?_insert_of_ne _ _ h

end Registry
end Conform
