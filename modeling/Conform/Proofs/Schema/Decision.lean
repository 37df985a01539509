import Conform.Proofs.Schema.Defects

/-!
# Deciding whether a schema has defects

What a node holds can be listed, and a node can be searched for the defects of
its own.  Together this decides whether a schema is free of defects, given which
patterns can be read.
-/
namespace Conform

/-- A rule and all rules that it leads to. -/
def Rule.chain {α : Type} : Rule α → List (Rule α)
  | ⟨operator, operand, added, elseIf, otherwise⟩ =>
    ⟨operator, operand, added, elseIf, otherwise⟩ ::
      ((match elseIf with
        | some next => next.chain
        | none => []) ++
      match otherwise with
        | some next => next.chain
        | none => [])
termination_by structural r => r

theorem Rule.mem_chain_iff {α : Type} {r r' : Rule α} : r' ∈ r.chain ↔ r.LeadsTo r' := by
  constructor
  · intro h
    fun_induction Rule.chain r with
    | case1 operator operand added elseIf otherwise ihElseIf ihOtherwise =>
      rcases List.mem_cons.mp h with rfl | h
      · exact .self _
      · rcases List.mem_append.mp h with h | h
        · cases elseIf with
          | none => cases h
          | some next => exact .elseIf rfl (ihElseIf h)
        · cases otherwise with
          | none => cases h
          | some next => exact .otherwise rfl (ihOtherwise h)
  · intro h
    induction h with
    | self r =>
      obtain ⟨_, _, _, _, _⟩ := r
      rw [chain.eq_def]
      exact List.mem_cons_self ..
    | @elseIf r _ _ h _ ih =>
      obtain ⟨_, _, _, _, _⟩ := r
      subst h
      rw [chain.eq_def]
      exact List.mem_cons_of_mem _ (List.mem_append_left _ ih)
    | @otherwise r _ _ h _ ih =>
      obtain ⟨_, _, _, _, _⟩ := r
      subst h
      rw [chain.eq_def]
      exact List.mem_cons_of_mem _ (List.mem_append_right _ ih)

/-- The tables that the rules of a block can add. -/
def Block.tables {α : Type} (b : Block α) : List α :=
  b.rules.flatMap fun rule => rule.chain.filterMap Rule.added

theorem Block.mem_tables_iff {α : Type} {b : Block α} {extra : α} :
    extra ∈ b.tables ↔ b.Adds extra := by
  simp only [tables, Adds, List.mem_flatMap, List.mem_filterMap, Rule.mem_chain_iff]

/-- The alternatives among the members. -/
def alternatives (members : List Member) : List Node :=
  members.filterMap fun member =>
    match member with
    | .alternative a => some (.spec a)
    | _ => none

theorem mem_alternatives_iff {members : List Member} {n : Node} :
    n ∈ alternatives members ↔ ∃ a, .alternative a ∈ members ∧ n = .spec a := by
  rw [alternatives, List.mem_filterMap]
  constructor
  · rintro ⟨member, hm, h⟩
    cases member with
    | alternative a =>
      cases h
      exact ⟨a, hm, rfl⟩
    | literal | nested => cases h
  · rintro ⟨a, hm, rfl⟩
    exact ⟨.alternative a, hm, rfl⟩

namespace Node

/-- All that a node holds. -/
def children : Node → List Node
  | tag _ => []
  | enum members => alternatives members
  | spec s =>
    (match s.properties with
      | .declared table => table.map Prod.snd
      | _ => []) ++
    s.items.nodes ++ alternatives s.type.members ++
    s.conditions.flatMap fun b => b.tables.flatMap fun extra => extra.map Prod.snd

theorem mem_children_iff {n child : Node} : child ∈ n.children ↔ n.Holds child := by
  constructor
  · intro h
    cases n with
    | tag name => cases h
    | enum members =>
      obtain ⟨a, ha, rfl⟩ := mem_alternatives_iff.mp h
      exact .alternative ha
    | spec s =>
      simp only [children, List.mem_append, List.mem_flatMap, List.mem_map,
        mem_alternatives_iff, Block.mem_tables_iff] at h
      rcases h with ((h | h) | ⟨a, ha, rfl⟩) | ⟨b, hb, extra, hadds, ⟨key, _⟩, hn, rfl⟩
      · cases hp : s.properties with
        | declared table =>
          rw [hp] at h
          obtain ⟨⟨key, _⟩, hn, rfl⟩ := List.mem_map.mp h
          exact .property hp hn
        | undeclared | malformed =>
          rw [hp] at h
          cases h
      · exact .item h
      · exact .alternative ha
      · exact .added hb hadds hn
  · intro h
    cases h with
    | property h hn =>
      simp only [children, h, List.mem_append, List.mem_map]
      exact .inl (.inl (.inl ⟨_, hn, rfl⟩))
    | item h =>
      simp only [children, List.mem_append]
      exact .inl (.inl (.inr h))
    | added h hadds hn =>
      simp only [children, List.mem_append, List.mem_flatMap, List.mem_map, Block.mem_tables_iff]
      exact .inr ⟨_, h, _, hadds, _, hn, rfl⟩
    | @alternative _ a h =>
      have ha : spec a ∈ alternatives n.members := mem_alternatives_iff.mpr ⟨a, h, rfl⟩
      cases n with
      | tag name => cases h
      | enum members => exact ha
      | spec s =>
        simp only [children, List.mem_append]
        exact .inl (.inr ha)

end Node

/-- The type is a known tag or an enumeration. -/
def TypeRef.isKnown : TypeRef → Bool
  | tag name => (TypeTag.parse? name).isSome
  | enum _ => true
  | _ => false

/-- The member is no list and not an enumeration itself. -/
def Member.isPlain : Member → Bool
  | alternative a =>
    match a.type with
    | .enum _ => false
    | _ => true
  | nested _ => false
  | literal _ => true

/-- The bounds on a size are numbers, and the lower one is positive. -/
def Limits.hasSize (l : Limits) (m : Measure) : Bool :=
  (m.max l).all (fun raw => raw.number?.isSome) &&
    (m.min l).all fun raw => raw.number?.any fun n => n.compare (.integer 0) = .gt

section
variable (matcher? : String → Option (String → Bool))

/-- A node has no defect of its own. -/
def Node.isSound : Node → Bool
  | tag name => (TypeTag.parse? name).isSome
  | enum members => members.all Member.isPlain
  | spec s =>
    s.type.isKnown && s.type.members.all Member.isPlain &&
    (match s.properties with
      | .malformed _ => false
      | _ => true) &&
    s.limits.pattern.all (fun source => (matcher? source).isSome) &&
    s.limits.hasSize .length && s.limits.hasSize .items &&
    s.conditions.all fun b => (Path.parse b.field).isOk

variable {matcher?}

theorem Member.not_isPlain_iff {member : Member} : member.isPlain = false ↔
    (∃ inner, member = .nested inner) ∨ ∃ a, member = .alternative a ∧ (Node.spec a).IsEnum := by
  cases member with
  | literal value => simp [isPlain]
  | nested inner => simp [isPlain]
  | alternative a => cases ht : a.type <;> simp [isPlain, Node.IsEnum, ht]

theorem Node.all_isPlain {n : Node} (h : ∀ code, ¬n.Defect matcher? code) :
    n.members.all Member.isPlain = true := by
  rw [List.all_eq_true]
  intro member hm
  cases hplain : member.isPlain with
  | true => rfl
  | false =>
    rcases Member.not_isPlain_iff.mp hplain with ⟨inner, rfl⟩ | ⟨a, rfl, ha⟩
    · exact absurd (.nestedList hm) (h _)
    · exact absurd (.nestedEnum hm ha) (h _)

theorem TypeRef.isKnown_of_no_defect {s : Spec}
    (h : ∀ code, ¬(Node.spec s).Defect matcher? code) : s.type.isKnown = true := by
  cases ht : s.type with
  | undeclared => exact absurd (.requireType ht) (h _)
  | malformed raw => exact absurd (.malformedType ht) (h _)
  | enum members => rfl
  | tag name =>
    cases hn : TypeTag.parse? name with
    | none => exact absurd (.unknownType ht hn) (h _)
    | some tag => simp [isKnown, hn]

theorem Limits.hasSize_of_no_defect {s : Spec}
    (h : ∀ code, ¬(Node.spec s).Defect matcher? code) (m : Measure) :
    s.limits.hasSize m = true := by
  rw [hasSize, Bool.and_eq_true, Option.all_eq_true, Option.all_eq_true]
  constructor
  · intro raw hraw
    rw [Option.isSome_iff_ne_none]
    exact fun hn => h _ (.maxBound m hraw hn)
  · intro raw hraw
    cases raw with
    | number n =>
      have hpos : n.compare (.integer 0) = .gt :=
        Decidable.byContradiction fun hn => h _ (.vacuous m hraw hn)
      simp [Json.number?, hpos]
    | null | bool | string | array | object => exact absurd (.minBound m hraw rfl) (h _)

theorem Node.isSound_of_no_defect {n : Node} (h : ∀ code, ¬n.Defect matcher? code) :
    n.isSound matcher? = true := by
  have hmembers := all_isPlain h
  cases n with
  | tag name =>
    cases hn : TypeTag.parse? name with
    | none => exact absurd (.unknownTag hn) (h _)
    | some tag => simp [isSound, hn]
  | enum members => exact hmembers
  | spec s =>
    have hmembers' : s.type.members.all Member.isPlain = true := hmembers
    have htype := TypeRef.isKnown_of_no_defect h
    have hsize := Limits.hasSize_of_no_defect h
    have hpattern : s.limits.pattern.all (fun source => (matcher? source).isSome) = true := by
      rw [Option.all_eq_true]
      intro source hs
      rw [Option.isSome_iff_ne_none]
      exact fun hn => h _ (.pattern hs hn)
    have hfields : (s.conditions.all fun b => (Path.parse b.field).isOk) = true := by
      rw [List.all_eq_true]
      intro b hb
      cases hp : Path.parse b.field with
      | ok field => rfl
      | error e => exact absurd (.invalidPath hb hp) (h _)
    cases hp : s.properties with
    | malformed raw => exact absurd (.properties hp) (h _)
    | undeclared | declared =>
      simp only [isSound, htype, hmembers', hp, hpattern, hsize, hfields, Bool.and_true]

theorem Node.no_defect_of_isSound {n : Node} (h : n.isSound matcher? = true) (code : IssueCode) :
    ¬n.Defect matcher? code := by
  have hmembers : ∀ member ∈ n.members, member.isPlain = true := by
    cases n with
    | tag name => exact fun _ hm => by cases hm
    | enum members => exact List.all_eq_true.mp h
    | spec s =>
      simp only [isSound, Bool.and_eq_true] at h
      exact List.all_eq_true.mp h.1.1.1.1.1.2
  intro hd
  cases hd with
  | nestedList hm => cases hmembers _ hm
  | nestedEnum hm ha =>
    have hplain := Member.not_isPlain_iff.mpr (.inr ⟨_, rfl, ha⟩)
    rw [hmembers _ hm] at hplain
    cases hplain
  | unknownTag hn => simp [isSound, hn] at h
  | properties hp => simp [isSound, hp] at h
  | requireType ht => simp [isSound, ht, TypeRef.isKnown] at h
  | unknownType ht hn => simp [isSound, ht, hn, TypeRef.isKnown] at h
  | malformedType ht => simp [isSound, ht, TypeRef.isKnown] at h
  | pattern hs hn => simp [isSound, hs, hn] at h
  | invalidPath hb hp =>
    simp only [isSound, Bool.and_eq_true, List.all_eq_true] at h
    have hok := h.2 _ hb
    rw [hp] at hok
    cases hok
  | maxBound m hm hn => cases m <;> simp [isSound, Limits.hasSize, hm, hn] at h
  | minBound m hm hn => cases m <;> simp [isSound, Limits.hasSize, hm, hn] at h
  | vacuous m hm hn => cases m <;> simp [isSound, Limits.hasSize, hm, hn, Json.number?] at h

variable (matcher?) in
/-- No node that the schema contains has a defect. -/
def Node.isDefectFree (n : Node) : Bool :=
  n.isSound matcher? && n.children.attach.all fun child => child.1.isDefectFree
termination_by sizeOf n
decreasing_by exact (mem_children_iff.mp child.2).sizeOf_lt

/-- The search finds a defect exactly if there is one. -/
theorem Node.isDefectFree_iff (n : Node) :
    n.isDefectFree matcher? = true ↔ n.DefectFree matcher? := by
  induction n using Node.holds_induction with
  | h n ih =>
    rw [isDefectFree, Bool.and_eq_true, List.all_eq_true]
    constructor
    · rintro ⟨hsound, hchildren⟩
      refine .intro (no_defect_of_isSound hsound) fun child hc => ?_
      exact (ih child hc).mp (hchildren ⟨child, mem_children_iff.mpr hc⟩ (List.mem_attach ..))
    · intro h
      refine ⟨isSound_of_no_defect fun code => h.not_defect, ?_⟩
      rintro ⟨child, hc⟩ _
      have hheld := mem_children_iff.mp hc
      exact (ih child hheld).mpr (h.of_holds hheld)

instance (n : Node) : Decidable (n.DefectFree matcher?) :=
  decidable_of_iff (n.isDefectFree matcher? = true) n.isDefectFree_iff

end
end Conform
