import Conform.Schema.Compile

/-!
# Keywords

The object of a schema is read keyword by keyword, and each keyword by its first
member.  So an object is read by its look-ups alone, and lists and tables are
read element by element.
-/
namespace Conform

/-- The type that a value of `type` declares. -/
def TypeRef.ofJson : Json → TypeRef
  | .string name => .tag name
  | .array members => .enum (membersOf members)
  | v => .malformed v

/-- The type that a value of `enum` declares, if it is a list. -/
def TypeRef.ofEnum? : Json → Option TypeRef
  | .array members => some (.enum (membersOf members))
  | _ => none

def Properties.ofJson : Json → Properties
  | .object ms => .declared (tableOf ms)
  | v => .malformed v

def Items.ofJson : Json → Items
  | .object ms => .each (.spec (.ofMembers ms))
  | .array nodes => .positional (nodesOf nodes)
  | .string name => .eachTag name
  | _ => .unconstrained

/-- The blocks that a value of `if` declares: a list of them or a single one. -/
def blocksAt : Json → List (Block (Table Node))
  | .array blocks => blocksOf blocks
  | v => (blockOf? v).toList

/-- The rules that a value of `conditions` declares: a list of them or a single one. -/
def rulesAt? : Json → Option (List (Rule (Table Node)))
  | .array rules => some (rulesOf rules)
  | v => (ruleOf? v).map fun rule => [rule]

/-- The properties that a value of `addProperties` declares, if it is an object. -/
def addedAt? : Json → Option (Table Node)
  | .object ms => some (tableOf ms)
  | _ => none

/-- To go through a table until a keyword comes is to look the keyword up. -/
theorem Table.eq_elim_get? {α β : Type} {keyword : String} {read : Table α → β} {f : α → β} {d : β}
    (nil : read [] = d)
    (cons : ∀ key v rest, read ((key, v) :: rest) = if key = keyword then f v else read rest)
    (ms : Table α) : read ms = (ms.get? keyword).elim d f := by
  induction ms with
  | nil => exact nil
  | cons e rest ih =>
    rw [cons, get?_cons, ih]
    split <;> rfl

section
variable (ms : Table Json)

theorem typeIn_eq : typeIn ms = (ms.get? "type").elim none fun v => some (TypeRef.ofJson v) := by
  apply Table.eq_elim_get? rfl
  intro key v rest
  cases v <;> rfl

theorem enumIn_eq : enumIn ms = (ms.get? "enum").elim none TypeRef.ofEnum? := by
  apply Table.eq_elim_get? rfl
  intro key v rest
  cases v <;> rfl

theorem propertiesIn_eq :
    propertiesIn ms = (ms.get? "properties").elim .undeclared Properties.ofJson := by
  apply Table.eq_elim_get? rfl
  intro key v rest
  cases v <;> rfl

theorem itemsIn_eq : itemsIn ms = (ms.get? "items").elim .unconstrained Items.ofJson := by
  apply Table.eq_elim_get? rfl
  intro key v rest
  cases v <;> rfl

theorem conditionsIn_eq : conditionsIn ms = (ms.get? "if").elim [] blocksAt := by
  apply Table.eq_elim_get? rfl
  intro key v rest
  cases v <;> rfl

theorem rulesIn?_eq : rulesIn? ms = (ms.get? "conditions").elim none rulesAt? := by
  apply Table.eq_elim_get? rfl
  intro key v rest
  cases v <;> rfl

theorem addedIn?_eq : addedIn? ms = (ms.get? "addProperties").elim none addedAt? := by
  apply Table.eq_elim_get? rfl
  intro key v rest
  cases v <;> rfl

theorem ruleIn?_eq (keyword : String) :
    ruleIn? keyword ms = (ms.get? keyword).elim none ruleOf? :=
  Table.eq_elim_get? rfl (fun _ _ _ => rfl) ms

theorem tableOf_eq : tableOf ms = ms.mapValues Node.ofJson := by
  induction ms with
  | nil => rfl
  | cons e rest ih =>
    rw [tableOf, ih]
    rfl

end

section
variable (vs : List Json)

theorem membersOf_eq : membersOf vs = vs.map Member.ofJson := by
  induction vs with
  | nil => rfl
  | cons v rest ih => rw [membersOf, ih, List.map_cons]

theorem nodesOf_eq : nodesOf vs = vs.map Node.ofJson := by
  induction vs with
  | nil => rfl
  | cons v rest ih => rw [nodesOf, ih, List.map_cons]

theorem blocksOf_eq : blocksOf vs = vs.filterMap blockOf? := by
  induction vs with
  | nil => rfl
  | cons v rest ih =>
    rw [blocksOf, ih, List.filterMap_cons]
    cases blockOf? v <;> rfl

theorem rulesOf_eq : rulesOf vs = vs.filterMap ruleOf? := by
  induction vs with
  | nil => rfl
  | cons v rest ih =>
    rw [rulesOf, ih, List.filterMap_cons]
    cases ruleOf? v <;> rfl

end

section
variable {ms ns : Table Json} {type enum type' enum' : Option TypeRef} {properties : Properties}
  {items : Items} {conditions : List (Block (Table Node))}

theorem Spec.assemble_eq_of_or (h : type.or enum = type'.or enum') :
    Spec.assemble ms type enum properties items conditions =
      Spec.assemble ms type' enum' properties items conditions := by
  rw [assemble, assemble, h]

/-- What stands at the keywords of the parts decides the parts, and the other
members decide the rest. -/
theorem Spec.assemble_congr
    (h : ∀ key, key ∉ ["type", "enum", "properties", "items", "if"] → ms.get? key = ns.get? key) :
    Spec.assemble ms type enum properties items conditions =
      Spec.assemble ns type enum properties items conditions := by
  simp only [assemble, isSet, Limits.ofMembers, Annotations.ofMembers, numberAt?, textAt?]
  simp (disch := decide) only [h]

end
end Conform
