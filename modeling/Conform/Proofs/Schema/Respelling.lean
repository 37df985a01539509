import Conform.Proofs.Schema.Keywords
import Conform.Proofs.Schema.LongForm

/-!
# Spellings of a schema

What a written schema may be replaced by depends on where it stands: a list is
an enumeration everywhere, but only where its input is present it is the same as
a specification of it.  Each single replacement, however deep, leaves the long
form of what is read.
-/
namespace Conform

/-- Where a value stands in a schema as it is written. -/
inductive Place where
  /-- The whole schema or an element of a list at `items`: its input is present. -/
  | present
  /-- A value in `properties` or `addProperties`. -/
  | property
  /-- The value of `items`. -/
  | items
  /-- The value of `properties` or `addProperties`. -/
  | properties
  /-- The value of `type` or `enum`. -/
  | members
  /-- An element of a list that is an enumeration. -/
  | member
  /-- The value of `if`. -/
  | blocks
  /-- An element of a list at `if`. -/
  | block
  /-- The value of `conditions`. -/
  | rules
  /-- An element of a list at `conditions`, or the value of `elseIf` or `else`. -/
  | rule
deriving DecidableEq

namespace Place

/-- The places where an object is a specification. -/
def specs : List Place := [present, property, items, member]

/-- The keywords of an object at the place that lead on, and the places they lead to. -/
def keywords : Place → Table Place
  | present | property | items | member =>
    [("type", members), ("enum", members), ("properties", properties), ("items", items),
      ("if", blocks)]
  | blocks | block => [("conditions", rules)]
  | rules | rule => [("addProperties", properties), ("elseIf", rule), ("else", rule)]
  | properties | members => []

/-- The place of a member of an object.  Values at other keywords are no schemas. -/
def member? (place : Place) (key : String) : Option Place :=
  if place = properties then some property else place.keywords.get? key

/-- The place of an element of a list. -/
def item? : Place → Option Place
  | present | property | members | member => some member
  | items => some present
  | blocks => some block
  | rules => some rule
  | properties | block | rule => none

end Place

/-- One replacement in what stands at a place, or anywhere within it: of a type
tag by the object that declares it, of a list where the input is present by the
object that has it as its type, of `enum` by `type` where there is no `type`. -/
inductive Respelling : Place → Json → Json → Prop where
  | tag {place : Place} {name : String} (h : place ∈ [.present, .property, .items])
    (hn : name ≠ "object") : Respelling place (.string name) (.object [("type", .string name)])
  | list (members : List Json) :
    Respelling .present (.array members) (.object [("type", .array members)])
  | enum {place : Place} {ms ns : Table Json} {members : List Json} (h : place ∈ Place.specs)
    (hnone : ms.get? "type" = none) (henum : ms.get? "enum" = some (.array members))
    (htype : ns.get? "type" = some (.array members))
    (hsame : ∀ key, key ∉ ["type", "enum"] → ms.get? key = ns.get? key) :
    Respelling place (.object ms) (.object ns)
  | item {place inner : Place} {v w : Json} (before after : List Json)
    (h : place.item? = some inner) (hvw : Respelling inner v w) :
    Respelling place (.array (before ++ v :: after)) (.array (before ++ w :: after))
  | member {place inner : Place} {key : String} {v w : Json} (before after : Table Json)
    (h : place.member? key = some inner) (hvw : Respelling inner v w) :
    Respelling place (.object (before ++ (key, v) :: after)) (.object (before ++ (key, w) :: after))

namespace Place

/-- Both values are read at the place as the same long form. -/
def Alike : Place → Json → Json → Prop
  | present, v, w => (Node.ofJson v).longForm.present = (Node.ofJson w).longForm.present
  | property, v, w => (Node.ofJson v).longForm = (Node.ofJson w).longForm
  | items, v, w => (Items.ofJson v).longForm = (Items.ofJson w).longForm
  | properties, v, w =>
    (Properties.ofJson v).map Node.longForm = (Properties.ofJson w).map Node.longForm ∧
      (addedAt? v).map longTable = (addedAt? w).map longTable
  | members, v, w => (TypeRef.ofJson v).longForm = (TypeRef.ofJson w).longForm ∧
      (TypeRef.ofEnum? v).map TypeRef.longForm = (TypeRef.ofEnum? w).map TypeRef.longForm
  | member, v, w => (Member.ofJson v).longForm = (Member.ofJson w).longForm
  | blocks, v, w =>
    (blocksAt v).map (Block.map longTable) = (blocksAt w).map (Block.map longTable)
  | block, v, w => (blockOf? v).map (Block.map longTable) = (blockOf? w).map (Block.map longTable)
  | rules, v, w => (rulesAt? v).map (List.map (Rule.map longTable)) =
      (rulesAt? w).map (List.map (Rule.map longTable))
  | rule, v, w => (ruleOf? v).map (Rule.map longTable) = (ruleOf? w).map (Rule.map longTable)

/-- The members of two objects are the same, or are read as the same long forms. -/
def AlikeAt (place : Place) (ms ns : Table Json) : Prop :=
  ∀ key, ms.get? key = ns.get? key ∨ ∃ inner v w, place.member? key = some inner ∧
    ms.get? key = some v ∧ ns.get? key = some w ∧ inner.Alike v w

section
variable {place inner : Place} {ms ns : Table Json} {key : String} {v w : Json}

theorem alikeAt_of_replaced (before after : Table Json) (h : place.member? key = some inner)
    (hvw : inner.Alike v w) :
    place.AlikeAt (before ++ (key, v) :: after) (before ++ (key, w) :: after) := by
  intro other
  induction before with
  | nil =>
    rw [List.nil_append, List.nil_append, Table.get?_cons, Table.get?_cons]
    by_cases hk : key = other
    · subst hk
      rw [if_pos rfl, if_pos rfl]
      exact .inr ⟨inner, v, w, h, rfl, rfl, hvw⟩
    · rw [if_neg hk, if_neg hk]
      exact .inl rfl
  | cons e rest ih =>
    rw [List.cons_append, List.cons_append, Table.get?_cons, Table.get?_cons]
    by_cases hk : e.1 = other
    · rw [if_pos hk, if_pos hk]
      exact .inl rfl
    · rw [if_neg hk, if_neg hk]
      exact ih

/-- Where nothing leads on the members are the same. -/
theorem AlikeAt.get?_eq (h : place.AlikeAt ms ns) (hkey : place.member? key = none) :
    ms.get? key = ns.get? key := by
  rcases h key with h | ⟨inner, _, _, hinner, _⟩
  · exact h
  · cases hkey.symm.trans hinner

/-- What is read at a keyword that leads on has the same long form. -/
theorem AlikeAt.long_eq {α β : Type} {read : Table Json → α} {f : Json → α} {d : α}
    (h : place.AlikeAt ms ns) (inner : Place) (hkey : place.member? key = some inner)
    (hread : ∀ ms, read ms = (ms.get? key).elim d f) (long : α → β)
    (hf : ∀ v w, inner.Alike v w → long (f v) = long (f w)) : long (read ms) = long (read ns) := by
  rw [hread, hread]
  rcases h key with h | ⟨other, v, w, hother, hv, hw, hvw⟩
  · rw [h]
  · cases hkey.symm.trans hother
    rw [hv, hw]
    exact hf v w hvw

end
end Place

section Objects
variable {place : Place} {ms ns : Table Json}

theorem Spec.longForm_assemble {type enum : Option TypeRef} {properties : Properties}
    {items : Items} {conditions : List (Block (Table Node))} :
    (Spec.assemble ms type enum properties items conditions).longForm =
      Spec.assemble ms (type.map TypeRef.longForm) (enum.map TypeRef.longForm)
        (properties.map Node.longForm) items.longForm
        (conditions.map (Block.map longTable)) := by
  rw [longForm_eq]
  cases type <;> cases enum <;> rfl

/-- A specification is read alike from members that are. -/
theorem Spec.longForm_ofMembers_eq (hplace : place ∈ Place.specs) (h : place.AlikeAt ms ns) :
    (Spec.ofMembers ms).longForm = (Spec.ofMembers ns).longForm := by
  have hmember (key : String) : place.member? key = Place.present.member? key := by
    simp only [Place.specs, List.mem_cons, List.not_mem_nil, or_false] at hplace
    rcases hplace with rfl | rfl | rfl | rfl <;> rfl
  have htype : (typeIn ms).map TypeRef.longForm = (typeIn ns).map TypeRef.longForm :=
    h.long_eq .members (hmember _) typeIn_eq _ fun v w hvw => congrArg some hvw.1
  have henum : (enumIn ms).map TypeRef.longForm = (enumIn ns).map TypeRef.longForm :=
    h.long_eq .members (hmember _) enumIn_eq _ fun v w hvw => hvw.2
  have hproperties : (propertiesIn ms).map Node.longForm = (propertiesIn ns).map Node.longForm :=
    h.long_eq .properties (hmember _) propertiesIn_eq _ fun v w hvw => hvw.1
  have hitems : (itemsIn ms).longForm = (itemsIn ns).longForm :=
    h.long_eq .items (hmember _) itemsIn_eq _ fun v w hvw => hvw
  have hconditions : (conditionsIn ms).map (Block.map longTable) =
      (conditionsIn ns).map (Block.map longTable) :=
    h.long_eq .blocks (hmember _) conditionsIn_eq _ fun v w hvw => hvw
  rw [ofMembers, ofMembers, longForm_assemble, longForm_assemble, htype, henum, hproperties, hitems,
    hconditions]
  apply assemble_congr
  intro key hkey
  apply h.get?_eq
  rw [hmember]
  exact Table.get?_eq_none_iff.mpr hkey

theorem Rule.map_assemble {f : Table Node → Table Node} {added : Option (Table Node)}
    {elseIf otherwise : Option (Rule (Table Node))} :
    (Rule.assemble ms added elseIf otherwise).map f =
      Rule.assemble ms (added.map f) (elseIf.map (Rule.map f)) (otherwise.map (Rule.map f)) := by
  cases elseIf <;> cases otherwise <;> rfl

theorem map_ruleOf?_eq (hplace : place ∈ [Place.rules, .rule]) (h : place.AlikeAt ms ns) :
    (ruleOf? (.object ms)).map (Rule.map longTable) =
      (ruleOf? (.object ns)).map (Rule.map longTable) := by
  have hmember (key : String) : place.member? key = Place.rule.member? key := by
    rcases List.mem_pair.mp hplace with rfl | rfl <;> rfl
  have hadded : (addedIn? ms).map longTable = (addedIn? ns).map longTable :=
    h.long_eq .properties (hmember _) addedIn?_eq _ fun v w hvw => hvw.2
  have halternative (key : String) (hkey : Place.rule.member? key = some .rule) :
      (ruleIn? key ms).map (Rule.map longTable) = (ruleIn? key ns).map (Rule.map longTable) :=
    h.long_eq .rule ((hmember key).trans hkey) (ruleIn?_eq · key) _ fun v w hvw => hvw
  have hoperator : ms.get? "operator" = ns.get? "operator" := h.get?_eq (hmember _)
  have hvalue : ms.get? "value" = ns.get? "value" := h.get?_eq (hmember _)
  rw [ruleOf?, ruleOf?, Option.map_some, Option.map_some, Rule.map_assemble, Rule.map_assemble,
    hadded, halternative "elseIf" rfl, halternative "else" rfl]
  unfold Rule.assemble textAt?
  rw [hoperator, hvalue]

theorem map_blockOf?_eq (hplace : place ∈ [Place.blocks, .block]) (h : place.AlikeAt ms ns) :
    (blockOf? (.object ms)).map (Block.map longTable) =
      (blockOf? (.object ns)).map (Block.map longTable) := by
  have hmember (key : String) : place.member? key = Place.block.member? key := by
    rcases List.mem_pair.mp hplace with rfl | rfl <;> rfl
  have hrules : (rulesIn? ms).map (List.map (Rule.map longTable)) =
      (rulesIn? ns).map (List.map (Rule.map longTable)) :=
    h.long_eq .rules (hmember _) rulesIn?_eq _ fun v w hvw => hvw
  have hvalue : ms.get? "value" = ns.get? "value" := h.get?_eq (hmember _)
  have hlong (ms : Table Json) (rules : Option (List (Rule (Table Node)))) :
      (Block.assemble? ms rules).map (Block.map longTable) =
        Block.assemble? ms (rules.map (List.map (Rule.map longTable))) := by
    unfold Block.assemble?
    cases textAt? ms "value" <;> cases rules <;> rfl
  rw [blockOf?, blockOf?, hlong, hlong, hrules]
  unfold Block.assemble? textAt?
  rw [hvalue]

/-- An enumeration is the type of a specification at either keyword. -/
theorem Spec.ofMembers_eq_of_enum {members : List Json} (hnone : ms.get? "type" = none)
    (henum : ms.get? "enum" = some (.array members))
    (htype : ns.get? "type" = some (.array members))
    (hsame : ∀ key, key ∉ ["type", "enum"] → ms.get? key = ns.get? key) :
    Spec.ofMembers ms = Spec.ofMembers ns := by
  have hdeclared : typeIn ns = some (.enum (membersOf members)) := by
    rw [typeIn_eq, htype]
    rfl
  have htypes : (typeIn ms).or (enumIn ms) = (typeIn ns).or (enumIn ns) := by
    rw [hdeclared, typeIn_eq, enumIn_eq, hnone, henum]
    rfl
  have hproperties : propertiesIn ms = propertiesIn ns := by
    rw [propertiesIn_eq, propertiesIn_eq, hsame _ (by decide)]
  have hitems : itemsIn ms = itemsIn ns := by
    rw [itemsIn_eq, itemsIn_eq, hsame _ (by decide)]
  have hconditions : conditionsIn ms = conditionsIn ns := by
    rw [conditionsIn_eq, conditionsIn_eq, hsame _ (by decide)]
  rw [ofMembers, ofMembers, hproperties, hitems, hconditions, assemble_eq_of_or htypes]
  apply assemble_congr
  intro key hkey
  apply hsame
  intro hmem
  apply hkey
  exact List.mem_append_left ["properties", "items", "if"] hmem

end Objects

namespace Respelling
variable {place inner : Place} {ms ns : Table Json} {v w : Json}

/-- Where an object is a specification only the long form of that counts. -/
theorem alike_of_spec (hplace : place ∈ Place.specs)
    (h : (Spec.ofMembers ms).longForm = (Spec.ofMembers ns).longForm) :
    place.Alike (.object ms) (.object ns) := by
  have hnode : (Node.ofJson (.object ms)).longForm = (Node.ofJson (.object ns)).longForm := by
    rw [Node.ofJson_object, Node.ofJson_object]
    exact congrArg Node.spec h
  simp only [Place.specs, List.mem_cons, List.not_mem_nil, or_false] at hplace
  rcases hplace with rfl | rfl | rfl | rfl
  · exact congrArg Node.present hnode
  · exact hnode
  · exact congrArg (fun n : Node => Items.each n.present) hnode
  · exact congrArg Member.alternative h

/-- The object that declares a tag is read as its specification. -/
theorem tag_alike {name : String} (hplace : place ∈ [Place.present, .property, .items])
    (hn : name ≠ "object") : place.Alike (.string name) (.object [("type", .string name)]) := by
  have hnode : (Node.ofJson (.string name)).longForm =
      (Node.ofJson (.object [("type", .string name)])).longForm := if_neg hn
  simp only [List.mem_cons, List.not_mem_nil, or_false] at hplace
  rcases hplace with rfl | rfl | rfl
  · exact congrArg Node.present hnode
  · exact hnode
  · exact congrArg Items.each hnode

theorem list_alike (members : List Json) :
    Place.present.Alike (.array members) (.object [("type", .array members)]) := rfl

theorem map_replaced {α β : Type} {f : α → β} {x y : α} (before after : List α) (h : f x = f y) :
    (before ++ x :: after).map f = (before ++ y :: after).map f := by
  simp [h]

theorem filterMap_replaced {α β : Type} {f : α → Option β} {x y : α} (before after : List α)
    (h : f x = f y) : (before ++ x :: after).filterMap f = (before ++ y :: after).filterMap f := by
  simp only [List.filterMap_append, List.filterMap_cons, h]

theorem item_alike (before after : List Json) (hplace : place.item? = some inner)
    (h : inner.Alike v w) :
    place.Alike (.array (before ++ v :: after)) (.array (before ++ w :: after)) := by
  have hmembers (h : (Member.ofJson v).longForm = (Member.ofJson w).longForm) :
      Revision.lengthen.members () (membersOf (before ++ v :: after)) =
        Revision.lengthen.members () (membersOf (before ++ w :: after)) := by
    rw [Revision.members_eq, Revision.members_eq, membersOf_eq, membersOf_eq, List.map_map,
      List.map_map]
    exact map_replaced before after h
  cases place with
  | present =>
    cases hplace
    exact congrArg (fun ms => Node.spec (.ofEnum ms)) (hmembers h)
  | property =>
    cases hplace
    exact congrArg Node.enum (hmembers h)
  | members =>
    cases hplace
    exact ⟨congrArg TypeRef.enum (hmembers h),
      congrArg (fun ms => some (TypeRef.enum ms)) (hmembers h)⟩
  | member =>
    cases hplace
    exact congrArg Member.nested (hmembers h)
  | items =>
    cases hplace
    change Items.positional (Revision.lengthen.nodes () (nodesOf _)) =
      Items.positional (Revision.lengthen.nodes () (nodesOf _))
    rw [Revision.nodes_eq, Revision.nodes_eq, nodesOf_eq, nodesOf_eq, List.map_map, List.map_map]
    exact congrArg Items.positional (map_replaced before after h)
  | blocks =>
    cases hplace
    change (blocksOf _).map (Block.map longTable) = (blocksOf _).map (Block.map longTable)
    rw [blocksOf_eq, blocksOf_eq, List.map_filterMap, List.map_filterMap]
    exact filterMap_replaced before after h
  | rules =>
    cases hplace
    change some ((rulesOf _).map (Rule.map longTable)) = some ((rulesOf _).map (Rule.map longTable))
    rw [rulesOf_eq, rulesOf_eq, List.map_filterMap, List.map_filterMap]
    exact congrArg some (filterMap_replaced before after h)
  | properties | block | rule => cases hplace

theorem member_alike {key : String} (before after : Table Json)
    (hplace : place.member? key = some inner) (h : inner.Alike v w) :
    place.Alike (.object (before ++ (key, v) :: after))
      (.object (before ++ (key, w) :: after)) := by
  have halike := Place.alikeAt_of_replaced before after hplace h
  cases place with
  | present | property | items | member =>
    exact alike_of_spec (by decide) (Spec.longForm_ofMembers_eq (by decide) halike)
  | properties =>
    cases hplace
    have htable : longTable (tableOf (before ++ (key, v) :: after)) =
        longTable (tableOf (before ++ (key, w) :: after)) := by
      rw [tableOf_eq, tableOf_eq]
      unfold longTable Table.mapValues
      rw [List.map_map, List.map_map]
      exact map_replaced before after (congrArg (Prod.mk key) h)
    exact ⟨congrArg Properties.declared htable, congrArg some htable⟩
  | blocks =>
    have hblock := map_blockOf?_eq (by decide) halike
    change (blockOf? _).toList.map (Block.map longTable) =
      (blockOf? _).toList.map (Block.map longTable)
    rw [← Option.toList_map, ← Option.toList_map, hblock]
  | block => exact map_blockOf?_eq (by decide) halike
  | rules =>
    exact congrArg (Option.map fun rule => [rule]) (map_ruleOf?_eq (by decide) halike)
  | rule => exact map_ruleOf?_eq (by decide) halike
  | members => cases hplace

theorem alike (h : Respelling place v w) : place.Alike v w := by
  induction h with
  | tag h hn => exact tag_alike h hn
  | list members => exact list_alike members
  | enum h hnone henum htype hsame =>
    exact alike_of_spec h (congrArg _ (Spec.ofMembers_eq_of_enum hnone henum htype hsame))
  | item before after h _ ih => exact item_alike before after h ih
  | member before after h _ ih => exact member_alike before after h ih

end Respelling
end Conform
