import Conform.Proofs.Check.Rules

/-!
# The issues of a check

Where the check of a node can stop and with which issue is written down once, as
a relation with one constructor for each raising point and one for each way to a
part of the node.  Below an enumeration only issues about the schema come out of
an alternative.
-/
namespace Conform

/-- What accompanies the issues about a node itself. -/
def Node.annotations : Node → Annotations
  | spec s => s.annotations
  | _ => {}

/-- The tag that a node is or has as its type. -/
def Node.typeName? : Node → Option String
  | tag name => some name
  | enum _ => none
  | spec s =>
    match s.type with
    | .tag name => some name
    | _ => none

/-- A check of the node against the input, at the path and inside of an
enumeration or not, may stop with the issue. -/
inductive Raises (matcher? : String → Option (String → Bool)) :
    Node → Option Json → Path → Bool → Issue → Prop where
  | properties {s : Spec} {raw : Json} {input here inEnum} (h : s.properties = .malformed raw) :
    Raises matcher? (.spec s) input here inEnum (schemaIssue .properties here s.annotations)
  | requireType {s : Spec} {input here inEnum} (h : s.type = .undeclared) :
    Raises matcher? (.spec s) input here inEnum (schemaIssue .requireType here s.annotations)
  | required {s : Spec} {here inEnum} (h : s.required = true) (hd : s.annotations.default = none) :
    Raises matcher? (.spec s) none here inEnum (dataIssue .required here s.annotations)
  | unknownType {n : Node} {name : String} {v here inEnum} (h : n.typeName? = some name)
    (hn : TypeTag.parse? name = none) :
    Raises matcher? n (some v) here inEnum (schemaIssue .typeof here n.annotations
      [("type", name), ("allowedTypes", TypeTag.listing)])
  | malformedType {s : Spec} {raw v : Json} {here inEnum} (h : s.type = .malformed raw) :
    Raises matcher? (.spec s) (some v) here inEnum (schemaIssue .typeof here s.annotations
      [("type", raw.display), ("allowedTypes", TypeTag.listing)])
  | wrongType {n : Node} {name : String} {tag : TypeTag} {v here inEnum}
    (h : n.typeName? = some name) (ht : TypeTag.parse? name = some tag)
    (hv : tag.admits v = false) :
    Raises matcher? n (some v) here inEnum
      (dataIssue .typeof here n.annotations [("type", name)])
  | unreadPattern {s : Spec} {source text : String} {here inEnum}
    (h : s.limits.pattern = some source) (hs : matcher? source = none) :
    Raises matcher? (.spec s) (some (.string text)) here inEnum
      (schemaIssue .pattern here s.annotations [("pattern", source)])
  | pattern {s : Spec} {source text : String} {accepts : String → Bool} {here inEnum}
    (h : s.limits.pattern = some source) (hs : matcher? source = some accepts)
    (ht : accepts text = false) :
    Raises matcher? (.spec s) (some (.string text)) here inEnum
      (dataIssue .pattern here s.annotations [("pattern", source)])
  | maxNotNumber {s : Spec} {raw v : Json} {size here inEnum} (m : Measure)
    (hv : m.size? v = some size) (h : m.max s.limits = some raw) (hraw : raw.number? = none) :
    Raises matcher? (.spec s) (some v) here inEnum
      (schemaIssue m.maxCode here s.annotations [("bound", m.maxCode.name)])
  | minNotNumber {s : Spec} {raw v : Json} {size here inEnum} (m : Measure)
    (hv : m.size? v = some size) (h : m.min s.limits = some raw) (hraw : raw.number? = none) :
    Raises matcher? (.spec s) (some v) here inEnum
      (schemaIssue m.minCode here s.annotations [("bound", m.minCode.name)])
  | vacuous {s : Spec} {v : Json} {b : Number} {size here inEnum} (m : Measure)
    (hv : m.size? v = some size) (h : m.min s.limits = some (.number b))
    (hb : b.compare (.integer 0) ≠ .gt) :
    Raises matcher? (.spec s) (some v) here inEnum
      (schemaIssue m.vacuousCode here s.annotations [("bound", m.minCode.name)])
  | aboveMax {s : Spec} {v : Json} {b : Number} {size here inEnum} (m : Measure)
    (hv : m.size? v = some size) (h : m.max s.limits = some (.number b))
    (hb : (Number.integer size).compare b = .gt) :
    Raises matcher? (.spec s) (some v) here inEnum
      (dataIssue m.maxCode here s.annotations [(m.maxCode.name, b.text)])
  | belowMin {s : Spec} {v : Json} {b : Number} {size here inEnum} (m : Measure)
    (hv : m.size? v = some size) (h : m.min s.limits = some (.number b))
    (hb : (Number.integer size).compare b = .lt) :
    Raises matcher? (.spec s) (some v) here inEnum
      (dataIssue m.minCode here s.annotations [(m.minCode.name, b.text)])
  | outOfRange {s : Spec} {n b : Number} {code violates here inEnum}
    (h : (code, some b, violates) ∈ s.limits.ranges) (hb : violates (n.compare b) = true) :
    Raises matcher? (.spec s) (some (.number n)) here inEnum
      (dataIssue code here s.annotations [(code.name, b.text)])
  | unexpectedKey {s : Spec} {ms : Table Json} {key : String} {here inEnum} (hk : key ∈ ms.keys)
    (h : s.allowsKey key = false) :
    Raises matcher? (.spec s) (some (.object ms)) here inEnum
      (dataIssue .unexpectedKey (here.child (.key key)) s.annotations)
  | insideEnum {n : Node} {input here} (h : n.IsEnum) :
    Raises matcher? n input here true (schemaIssue .nestedEnum here n.annotations)
  | nestedList {n : Node} {inner : List Member} {input here inEnum}
    (h : .nested inner ∈ n.members) :
    Raises matcher? n input here inEnum (schemaIssue .nestedEnum here n.annotations)
  | noMember {n : Node} {input here inEnum} (h : n.IsEnum) :
    Raises matcher? n input here inEnum
      (dataIssue .enum here n.annotations [("enums", membersLabel n.members)])
  | alternative {n : Node} {a : Spec} {k : Nat} {i : Issue} {input here inEnum}
    (h : n.members[k]? = some (.alternative a))
    (hr : Raises matcher? (.spec a) input (here.child (.index k)) true i)
    (hi : i.domain = .schema) : Raises matcher? n input here inEnum i
  | item {s : Spec} {node : Node} {xs : List Json} {x : Json} {k : Nat} {i : Issue} {here inEnum}
    (h : s.items.nodeAt? k = some node) (hx : xs[k]? = some x)
    (hr : Raises matcher? node (some x) (here.child (.index k)) false i) :
    Raises matcher? (.spec s) (some (.array xs)) here inEnum i
  | property {s : Spec} {table : Table Node} {node : Node} {ms : Table Json} {key : String}
    {i : Issue} {here inEnum} (h : s.properties = .declared table) (hn : (key, node) ∈ table)
    (hr : Raises matcher? node (ms.get? key) (here.child (.key key)) false i) :
    Raises matcher? (.spec s) (some (.object ms)) here inEnum i

theorem Items.mem_nodes_of_nodeAt? {items : Items} {k : Nat} {node : Node}
    (h : items.nodeAt? k = some node) : node ∈ items.nodes := by
  cases items with
  | unconstrained => cases h
  | each n =>
    cases h
    exact List.mem_singleton_self _
  | positional nodes => exact List.mem_of_getElem? h
  | eachTag name =>
    cases h
    exact List.mem_singleton_self _

section
variable {p : Policy} {here : Path} {inEnum : Bool}

theorem checkText_raises (s : Spec) (text : String) :
    p.StopsWith (checkText p s.limits text here s.annotations)
      (Raises p.matcher? (.spec s) (some (.string text)) here inEnum) := by
  unfold checkText
  refine (checkPattern_stops ?_ ?_).bind fun _ _ => checkSize_stops ?_ ?_ ?_ ?_ ?_
  · exact fun source h hs => .unreadPattern h hs
  · exact fun source accepts h hs ht => .pattern h hs ht
  · exact fun raw h hraw => .maxNotNumber .length rfl h hraw
  · exact fun raw h hraw => .minNotNumber .length rfl h hraw
  · exact fun b h hb => .vacuous .length rfl h hb
  · exact fun b h hb => .aboveMax .length rfl h hb
  · exact fun b h hb => .belowMin .length rfl h hb

/-- The check of a value that has its tag, given those of its items and members. -/
theorem checkFacets_raises {s : Spec} {tag : TypeTag} {v : Json}
    (ih : ∀ child, (Node.spec s).Holds child → ∀ input there inEnum,
      p.StopsWith (checkNode p child input there inEnum)
        (Raises p.matcher? child input there inEnum)) :
    p.StopsWith (checkFacets p s tag v here)
      (Raises p.matcher? (.spec s) (some v) here inEnum) := by
  unfold checkFacets
  split
  · exact checkText_raises s _
  · rename_i xs
    refine (checkSize_stops ?_ ?_ ?_ ?_ ?_).bind fun _ _ => checkItems_stops ?_
    · exact fun raw h hraw => .maxNotNumber .items rfl h hraw
    · exact fun raw h hraw => .minNotNumber .items rfl h hraw
    · exact fun b h hb => .vacuous .items rfl h hb
    · exact fun b h hb => .aboveMax .items rfl h hb
    · exact fun b h hb => .belowMin .items rfl h hb
    · intro k node x hn hx
      exact (ih node (.item (Items.mem_nodes_of_nodeAt? hn)) _ _ _).imp
        fun i hi => .item hn hx hi
  · rename_i ms
    refine Policy.StopsWith.bind ?_ fun _ _ => checkUnexpected_stops fun key hk h =>
      .unexpectedKey hk h
    cases hp : s.properties with
    | declared table =>
      refine checkTable_stops fun key node hn => ?_
      exact (ih node (.property hp hn) _ _ _).imp fun i hi => .property hp hn hi
    | undeclared | malformed => exact Policy.stopsWith_pure _
  · split
    · exact checkRange_stops fun code b violates h hb => .outOfRange h hb
    · exact Policy.stopsWith_pure _
  · exact Policy.stopsWith_pure _

/-- The check of an enumeration, given those of its alternatives. -/
theorem checkEnum_raises (n : Node) {input : Option Json} (hn : n.IsEnum)
    (ih : ∀ child, n.Holds child → ∀ input there inEnum,
      p.StopsWith (checkNode p child input there inEnum)
        (Raises p.matcher? child input there inEnum)) :
    p.StopsWith (checkEnum p n.members input here inEnum n.annotations)
      (Raises p.matcher? n input here inEnum) := by
  apply checkEnum_stops
  · rintro rfl
    exact .insideEnum hn
  · intro k a ha
    have hchild := ih (.spec a) (.alternative (List.mem_of_getElem? ha)) input
      (here.child (.index k)) true
    rw [checkNode_spec] at hchild
    exact hchild.imp fun i hr hi => .alternative ha hr hi
  · exact fun inner h => .nestedList h
  · exact .noMember hn

theorem checkTag_raises (n : Node) {name : String} {v : Json} (hn : n.typeName? = some name) :
    p.StopsWith (checkTag p name v here n.annotations)
      (Raises p.matcher? n (some v) here inEnum) :=
  checkTag_stops (fun h => .unknownType hn h) fun _ ht hv => .wrongType hn ht hv

theorem checkSpec_raises {s : Spec} {input : Option Json}
    (ih : ∀ child, (Node.spec s).Holds child → ∀ input there inEnum,
      p.StopsWith (checkNode p child input there inEnum)
        (Raises p.matcher? child input there inEnum)) :
    p.StopsWith (checkSpec p s input here inEnum)
      (Raises p.matcher? (.spec s) input here inEnum) := by
  have hproperties : p.StopsWith (checkProperties p s.properties here s.annotations)
      (Raises p.matcher? (.spec s) input here inEnum) :=
    checkProperties_stops fun raw h => .properties h
  by_cases hu : s.type = .undeclared
  · rw [checkSpec_undeclared _ _ _ _ hu]
    exact hproperties.bind fun _ _ => Policy.stopsWith_raise (.requireType hu)
  · cases input with
    | none =>
      rw [checkSpec_none _ _ _ hu]
      exact hproperties.bind fun _ _ => checkPresence_stops fun hr _ hd => .required hr hd
    | some v =>
      cases ht : s.type with
      | undeclared => exact absurd ht hu
      | enum members =>
        rw [checkSpec_enum _ _ _ _ ht]
        have hmembers : (Node.spec s).members = members := by rw [Node.members, ht]; rfl
        have henum : p.StopsWith
            (checkEnum p (Node.spec s).members (some v) here inEnum s.annotations)
            (Raises p.matcher? (.spec s) (some v) here inEnum) :=
          checkEnum_raises (.spec s) ⟨members, ht⟩ ih
        rw [hmembers] at henum
        exact hproperties.bind fun _ _ => henum
      | malformed raw =>
        rw [checkSpec_malformed _ _ _ _ ht]
        refine hproperties.bind fun _ _ => ?_
        split
        · exact Policy.stopsWith_pure _
        · exact Policy.stopsWith_raise (.malformedType ht)
      | tag name =>
        rw [checkSpec_tag _ _ _ _ ht]
        have hname : (Node.spec s).typeName? = some name := by rw [Node.typeName?, ht]
        refine hproperties.bind fun _ _ => ?_
        split
        · exact Policy.stopsWith_pure _
        · refine (checkTag_raises (.spec s) hname).bind fun tag _ => ?_
          cases tag with
          | none => exact Policy.stopsWith_pure _
          | some tag => exact checkFacets_raises ih

end

/-- Every issue that stops a check is one of those that may. -/
theorem checkNode_raises (p : Policy) (n : Node) (input : Option Json) (here : Path)
    (inEnum : Bool) : p.StopsWith (checkNode p n input here inEnum)
      (Raises p.matcher? n input here inEnum) := by
  induction n using Node.holds_induction generalizing input here inEnum with
  | h n ih =>
    cases n with
    | tag name =>
      cases input with
      | none => exact Policy.stopsWith_pure _
      | some v => exact (checkTag_raises (.tag name) rfl).bind fun _ _ => Policy.stopsWith_pure _
    | enum members =>
      rw [checkNode_enum]
      exact checkEnum_raises (.enum members) trivial ih
    | spec s =>
      rw [checkNode_spec]
      exact checkSpec_raises ih

end Conform
