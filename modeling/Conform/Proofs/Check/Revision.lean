import Conform.Proofs.Check.Comparison
import Conform.Proofs.Check.Listing
import Conform.Proofs.Extension.Revision

/-!
# Checks of revised schemas

A revision keeps what a specification says about itself, the keys of its properties
included, and the names of all members.  So it leaves a check as it is if what it
does with tags and with the nodes for items does not matter to a check.
-/
namespace Conform

theorem Spec.label_eq_type (s : Spec) : s.label = s.type.label := by
  cases s
  rfl

namespace Revision
variable {σ : Type} (r : Revision σ)

mutual

theorem label_member (mode : σ) : ∀ x : Member, (r.member mode x).label = x.label
  | .literal v => rfl
  | .alternative ⟨type, _, _, _, _, _, _, _, _⟩ => by
    rw [Revision.member, Member.label, Member.label, Spec.label_eq_type, Revision.spec]
    dsimp only
    cases r.inner with
    | none => rfl
    | some inner => exact label_type inner type
  | .nested members => by
    rw [Revision.member, Member.label, Member.label, label_members mode members]
termination_by structural x => x

theorem label_members (mode : σ) : ∀ members : List Member,
    memberLabels (r.members mode members) = memberLabels members
  | [] => rfl
  | x :: rest => by
    rw [Revision.members, memberLabels, memberLabels, label_member mode x,
      label_members mode rest]
termination_by structural members => members

theorem label_type (mode : σ) : ∀ type : TypeRef, (r.type mode type).label = type.label
  | .enum members => by
    rw [Revision.type, TypeRef.label, TypeRef.label, label_members mode members]
  | .undeclared | .tag _ | .malformed _ => rfl
termination_by structural type => type

end

variable {p : Policy} {mode : σ} {members : List Member} {input : Option Json} {here : Path}
  {about : Annotations}

theorem hasLiteral_members :
    hasLiteral (r.members mode members) input = hasLiteral members input := by
  cases input with
  | none => rfl
  | some v =>
    rw [members_eq]
    simp only [hasLiteral, List.any_map]
    congr
    funext x
    cases x <;> rfl

/-- Revised members are tried as the members, if each alternative is. -/
theorem tryMembers_members {label : String} {k : Nat}
    (h : ∀ a, .alternative a ∈ members → ∀ here,
      checkSpec p (r.spec mode a) input here true = checkSpec p a input here true) :
    tryMembers p (r.members mode members) input here about label k =
      tryMembers p members input here about label k := by
  induction members generalizing k with
  | nil => rfl
  | cons x rest ih =>
    have hrest := ih (k := k + 1) fun a ha => h a (List.mem_cons_of_mem _ ha)
    rw [Revision.members]
    cases x with
    | literal l => rw [Revision.member, tryMembers, tryMembers, hrest]
    | nested inner => rw [Revision.member, tryMembers, tryMembers, hrest]
    | alternative a =>
      rw [Revision.member, tryMembers_alternative, tryMembers_alternative, hrest,
        h a (List.mem_cons_self ..)]

theorem checkEnum_members {inEnum : Bool}
    (h : ∀ a, .alternative a ∈ members → ∀ here,
      checkSpec p (r.spec mode a) input here true = checkSpec p a input here true) :
    checkEnum p (r.members mode members) input here inEnum about =
      checkEnum p members input here inEnum about := by
  have hlabel : membersLabel (r.members mode members) = membersLabel members :=
    congrArg (String.intercalate ", ") (r.label_members mode members)
  unfold checkEnum checkEnumWith
  rw [r.hasLiteral_members, hlabel, r.tryMembers_members h]

end Revision

/-- Two specifications that differ at most in the members of their types and in the nodes of
their parts. -/
structure Spec.SameShape (s s' : Spec) : Prop where
  properties : ∃ f, s'.properties = s.properties.map f
  required : s'.required = s.required
  nullable : s'.nullable = s.nullable
  additionalProperties : s'.additionalProperties = s.additionalProperties
  limits : s'.limits = s.limits
  annotations : s'.annotations = s.annotations

namespace Spec.SameShape
variable {p : Policy} {s s' : Spec} {input : Option Json} {here : Path} {inEnum : Bool} {v : Json}

theorem checkProperties_eq (h : s.SameShape s') :
    checkProperties p s'.properties here s.annotations =
      checkProperties p s.properties here s.annotations := by
  obtain ⟨f, hf⟩ := h.properties
  rw [hf]
  cases s.properties <;> rfl

theorem checkContent_eq (h : s.SameShape s') (v : Json) :
    checkContent p s' v here = checkContent p s v here := by
  cases v <;> simp [checkContent, h.limits, h.annotations]

theorem allowsKey_eq (h : s.SameShape s') (key : String) : s'.allowsKey key = s.allowsKey key := by
  obtain ⟨f, hf⟩ := h.properties
  unfold allowsKey
  rw [hf, h.additionalProperties]
  cases s.properties with
  | declared table =>
    change Option.isSome (Table.get? (Table.mapValues f table) key) =
      Option.isSome (Table.get? table key)
    rw [Table.get?_mapValues, Option.isSome_map]
  | undeclared | malformed => rfl

theorem checkClosed_eq (h : s.SameShape s') (v : Json) :
    checkClosed p s' v here = checkClosed p s v here := by
  rw [checkClosed_eq_outcome, checkClosed_eq_outcome]
  unfold closedIssues
  simp only [h.allowsKey_eq, h.annotations]

theorem checkFacets_eq (h : s.SameShape s') {tag : TypeTag} (hv : tag.admits v = true)
    (hparts : forM (s'.parts v) (Part.check p here) = forM (s.parts v) (Part.check p here)) :
    checkFacets p s' tag v here = checkFacets p s tag v here := by
  rw [Conform.checkFacets_eq hv, Conform.checkFacets_eq hv, h.checkContent_eq, hparts,
    h.checkClosed_eq]

/-- The checks are the same if those of the parts and of the members are. -/
theorem checkSpec_eq (h : s.SameShape s')
    (htype : s'.type = s.type ∨ ∃ members members', s.type = .enum members ∧
      s'.type = .enum members' ∧ ∀ v, input = some v →
        checkEnum p members' (some v) here inEnum s.annotations =
          checkEnum p members (some v) here inEnum s.annotations)
    (hparts : ∀ v, forM (s'.parts v) (Part.check p here) = forM (s.parts v) (Part.check p here)) :
    checkSpec p s' input here inEnum = checkSpec p s input here inEnum := by
  have hundeclared : s'.type = .undeclared ↔ s.type = .undeclared := by
    rcases htype with htype | ⟨members, members', hmembers, hmembers', -⟩
    · rw [htype]
    · simp [hmembers, hmembers']
  by_cases hu : s.type = .undeclared
  · rw [checkSpec_undeclared _ _ _ _ hu, checkSpec_undeclared _ _ _ _ (hundeclared.mpr hu)]
    simp only [h.annotations, h.checkProperties_eq]
  cases input with
  | none =>
    rw [checkSpec_none _ _ _ hu, checkSpec_none _ _ _ (mt hundeclared.mp hu)]
    simp only [h.annotations, h.required, h.checkProperties_eq]
  | some v =>
    rcases htype with htype | ⟨members, members', hmembers, hmembers', henum⟩
    · cases ht : s.type with
      | undeclared => exact absurd ht hu
      | enum members =>
        rw [checkSpec_enum _ _ _ _ ht, checkSpec_enum _ _ _ _ (htype.trans ht), h.annotations,
          h.checkProperties_eq]
      | malformed raw =>
        rw [checkSpec_malformed _ _ _ _ ht, checkSpec_malformed _ _ _ _ (htype.trans ht)]
        simp only [h.annotations, h.nullable, h.checkProperties_eq]
      | tag name =>
        rw [checkSpec_tag _ _ _ _ ht, checkSpec_tag _ _ _ _ (htype.trans ht)]
        simp only [h.annotations, h.nullable, h.checkProperties_eq]
        congr
        funext _
        split
        · rfl
        · cases hr : checkTag p name v here s.annotations with
          | error i => rfl
          | ok found =>
            cases found with
            | none => rfl
            | some tag => exact h.checkFacets_eq (checkTag_eq_some hr).2 (hparts v)
    · rw [checkSpec_enum _ _ _ _ hmembers, checkSpec_enum _ _ _ _ hmembers', h.annotations,
        h.checkProperties_eq, henum v rfl]

end Spec.SameShape

/-- The parts are checked alike if the maps of properties and of items do not matter to a check:
one node stands for another as it is, or where a value is present. -/
theorem Spec.forM_parts_eq {p : Policy} {s s' : Spec} {v : Json} {here : Path} {f g : Node → Node}
    (hproperties : s'.properties = s.properties.map f) (hitems : ∀ xs, s'.items.parts xs =
      (s.items.parts xs).map fun x => ⟨x.segment, g x.node, x.value⟩)
    (hf : ∀ n, (Node.spec s).Holds n → ∀ (input : Option Json) (here : Path),
      checkNode p (f n) input here false = checkNode p n input here false)
    (hg : ∀ n, (Node.spec s).Holds n → ∀ (v : Json) (here : Path),
      checkNode p (g n) (some v) here false = checkNode p n (some v) here false) :
    forM (s'.parts v) (Part.check p here) = forM (s.parts v) (Part.check p here) := by
  apply RunRelation.same.forM_rel
  cases v with
  | array xs =>
    change List.Forall₂ _ (s'.items.parts xs) (s.items.parts xs)
    rw [hitems, List.forall₂_map_left_iff]
    apply List.forall₂_same.mpr
    intro x hx
    have hheld : (Node.spec s).Holds x.node := Spec.holds_of_mem_parts (v := .array xs) hx
    obtain ⟨k, node, y, _, _, rfl⟩ := Items.mem_parts_iff.mp hx
    exact hg node hheld y _
  | object ms =>
    change List.Forall₂ _ (s'.properties.entries.map _) (s.properties.entries.map _)
    rw [hproperties, Properties.entries_map, Table.mapValues, List.map_map,
      List.forall₂_map_left_iff, List.forall₂_map_right_iff]
    apply List.forall₂_same.mpr
    intro e he
    exact hf e.2 (Spec.holds_of_mem_parts (Spec.mem_parts_object he ms)) _ _
  | null | bool | number | string => exact .nil

namespace Revision
variable {σ : Type} {r : Revision σ} {mode inner : σ} {p : Policy}

theorem sameShape (s : Spec) : s.SameShape (r.spec mode s) := by
  rw [spec_eq]
  exact ⟨⟨_, rfl⟩, rfl, rfl, rfl, rfl, rfl⟩

/-- What is done with tags and with item nodes does not matter to a check. -/
structure Unnoticed (r : Revision σ) (inner : σ) (p : Policy) : Prop where
  inner : r.inner = some inner
  tag : ∀ name input here inEnum,
    checkNode p (r.tag name) input here inEnum = checkNode p (.tag name) input here inEnum
  item : ∀ n v here inEnum,
    checkNode p (r.item n) (some v) here inEnum = checkNode p n (some v) here inEnum
  eachTag : ∀ name xs, (r.eachTag name).parts xs = (Items.each (r.item (r.tag name))).parts xs

theorem Unnoticed.parts_items (h : r.Unnoticed inner p) (items : Items) (xs : List Json) :
    (r.items mode items).parts xs =
      (items.parts xs).map fun x => ⟨x.segment, r.item (r.node mode x.node), x.value⟩ := by
  cases items with
  | unconstrained => rfl
  | each node =>
    simp only [Revision.items, Items.parts, List.map_map]
    rfl
  | positional nodes =>
    simp only [Revision.items, Items.parts, nodes_eq, List.zip_map_left, List.zipIdx_map,
      List.map_map]
    rfl
  | eachTag name =>
    rw [Revision.items, h.eachTag]
    simp only [Items.parts, List.map_map]
    rfl

/-- The check comes to the same result on a revised node. -/
theorem Unnoticed.checkNode_eq (h : r.Unnoticed inner p) (n : Node) (mode : σ)
    (input : Option Json) (here : Path) (inEnum : Bool) :
    checkNode p (r.node mode n) input here inEnum = checkNode p n input here inEnum := by
  induction n using Node.holds_induction generalizing mode input here inEnum with
  | h n ih =>
    have halternatives (input : Option Json) : ∀ a, .alternative a ∈ n.members → ∀ here,
        checkSpec p (r.spec inner a) input here true = checkSpec p a input here true := by
      intro a ha here
      have hcheck := ih (.spec a) (.alternative ha) inner input here true
      rwa [Revision.node, checkNode_spec, checkNode_spec] at hcheck
    cases n with
    | tag name => exact h.tag name input here inEnum
    | enum members =>
      rw [Revision.node, h.inner, checkNode_enum, checkNode_enum]
      exact r.checkEnum_members (halternatives input)
    | spec s =>
      rw [Revision.node, checkNode_spec, checkNode_spec]
      have htype : (r.spec mode s).type = r.type inner s.type := by
        rw [spec_eq, h.inner]
        rfl
      apply (sameShape s).checkSpec_eq
      · rw [htype]
        cases ht : s.type with
        | enum members =>
          have hmembers : (Node.spec s).members = members := by
            rw [Node.members, ht]
            rfl
          refine .inr ⟨members, _, rfl, rfl, fun v _ => r.checkEnum_members fun a ha => ?_⟩
          exact halternatives (some v) a (hmembers ▸ ha)
        | undeclared | tag | malformed => exact .inl rfl
      · intro v
        refine Spec.forM_parts_eq (f := r.node mode) (g := fun n => r.item (r.node inner n))
          (spec_properties s) (fun xs => ?_) ?_ ?_
        · rw [spec_eq, h.inner]
          exact h.parts_items s.items xs
        · exact fun n hn input here => ih n hn mode input here false
        · intro n hn v here
          rw [h.item, ih n hn inner (some v) here false]

theorem Unnoticed.check_eq (h : r.Unnoticed inner p)
    (hkeeps : ∀ field, r.keeps mode field = true) (htag : ∀ name, (r.tag name).Settled)
    (schema : Node) (input : Json) : check p (r.node mode schema) input = check p schema input := by
  unfold check extend
  rw [extend_node input Path.root hkeeps htag p schema]
  cases schema.extend p input Path.root with
  | error i => rfl
  | ok extended => exact h.checkNode_eq extended mode _ _ _

end Revision
end Conform
