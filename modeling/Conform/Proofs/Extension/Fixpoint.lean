import Conform.Proofs.Check.Wording
import Conform.Proofs.Extension.Result

/-!
# An extension is extended no further

The walk takes the blocks out of every specification that it leaves behind, also
of those that a block has brought in.  A node without blocks along its declared
properties is its own extension, for every input and under every catalog, and so
checking an extension is checking the schema that it came from.
-/
namespace Conform
namespace Node

/-- A specification declares the nodes of its properties. -/
inductive Declares : Node → Node → Prop where
  | property {s : Spec} {key : String} {node : Node} (h : (key, node) ∈ s.properties.entries) :
    Declares (spec s) node

/-- No specification that is reached through declared properties has a block. -/
def Settled (n : Node) : Prop :=
  ∀ s, Relation.ReflTransGen Declares n (spec s) → s.conditions = []

theorem settled_iff (n : Node) : n.Settled ↔
    (∀ s, n = spec s → s.conditions = []) ∧ ∀ child, n.Declares child → child.Settled := by
  constructor
  · intro h
    refine ⟨?_, fun child hc s hs => h s (.head hc hs)⟩
    rintro s rfl
    exact h s .refl
  · rintro ⟨hself, hchildren⟩ s hs
    rcases Relation.ReflTransGen.cases_head hs with h | ⟨child, hc, hs⟩
    · exact hself s h
    · exact hchildren child hc s hs

theorem Declares.holds {n child : Node} (h : n.Declares child) : n.Holds child := by
  obtain ⟨hn⟩ := h
  exact Spec.holds_of_mem_entries hn

theorem settled_tag (name : String) : (tag name).Settled := by
  rw [settled_iff]
  constructor <;> rintro _ ⟨⟩

theorem settled_enum (members : List Member) : (enum members).Settled := by
  rw [settled_iff]
  constructor <;> rintro _ ⟨⟩

end Node

theorem Properties.mem_of_withEntries {ps : Properties} {table : Table Node} {e : String × Node}
    (h : e ∈ (ps.withEntries table).entries) : e ∈ table := by
  cases ps with
  | declared => exact h
  | undeclared | malformed => cases h

theorem Properties.withEntries_entries (ps : Properties) : ps.withEntries ps.entries = ps := by
  cases ps <;> rfl

theorem Spec.update_properties {s : Spec} {ps : Properties} (h : ps = s.properties) :
    { s with properties := ps } = s := by
  cases s
  subst h
  rfl

namespace Node
variable {root : Json} {here : Path} {n : Node}

/-- The walk leaves no block behind. -/
theorem extended_settled (root : Json) (n : Node) : (n.extended root).Settled := by
  induction Path.root, n using Node.applied_induction root with
  | tag here name =>
    rw [extended_tag]
    exact settled_tag name
  | enum here members =>
    rw [extended_enum]
    exact settled_enum members
  | spec here s ih =>
    rw [extended_spec, settled_iff]
    constructor
    · rintro _ ⟨⟩
      rw [Spec.applied_grows.same]
    · rintro _ ⟨hmem⟩
      obtain ⟨e, he, heq⟩ := List.mem_map.mp (Properties.mem_of_withEntries hmem)
      cases heq
      exact ih e.1 e.2 he

/-- A node without blocks is its own extension. -/
theorem Settled.extended_eq (h : n.Settled) : n.extended root = n := by
  induction n using Node.holds_induction with
  | h n ih =>
    cases n with
    | tag name => exact extended_tag root name
    | enum members => exact extended_enum root members
    | spec s =>
      obtain ⟨hself, hchildren⟩ := (settled_iff _).mp h
      have happlied : s.applied root = s := Spec.applied_of_no_conditions (hself s rfl)
      have hentries : s.properties.entries.map (fun e => (e.1, e.2.extended root)) =
          s.properties.entries := by
        refine (List.map_congr_left fun e he => ?_).trans (List.map_id _)
        have hdeclares : (spec s).Declares e.2 := .property he
        rw [ih e.2 hdeclares.holds (hchildren _ hdeclares), id]
      rw [extended_spec, happlied, hentries]
      exact congrArg spec (Spec.update_properties s.properties.withEntries_entries)

theorem Settled.fieldIssues_eq (h : n.Settled) : n.fieldIssues root here = [] := by
  induction n using Node.holds_induction generalizing here with
  | h n ih =>
    cases n with
    | tag name => exact fieldIssues_tag root here name
    | enum members => exact fieldIssues_enum root here members
    | spec s =>
      obtain ⟨hself, hchildren⟩ := (settled_iff _).mp h
      have happlied : s.applied root = s := Spec.applied_of_no_conditions (hself s rfl)
      rw [fieldIssues_spec, happlied, hself s rfl, List.flatMap_nil, List.nil_append,
        List.flatMap_eq_nil_iff]
      intro e he
      have hdeclares : (spec s).Declares e.2 := .property he
      exact ih e.2 hdeclares.holds (hchildren _ hdeclares)

theorem Settled.extend_eq (h : n.Settled) (p : Policy) : n.extend p root here = .ok n := by
  rw [extend_eq_outcome, h.fieldIssues_eq, h.extended_eq, Policy.outcome_nil]

end Node

/-- The extension does not depend on how patterns are read. -/
theorem extendUnder_eq_ok_iff (matcher? : String → Option (String → Bool)) {c : Catalog}
    {schema extended : Node} {input : Json} :
    extendUnder c schema input = .ok extended ↔
      extend (c.policy matcher?) schema input = .ok extended := by
  have hreports : (c.policy matcher?).reports = (c.policy fun _ => none).reports := rfl
  have hsame : extend (c.policy matcher?) schema input =
      extend (c.policy fun _ => none) schema input :=
    Node.extend_congr hreports schema
  rw [hsame, extendUnder_eq]
  cases extend (c.policy fun _ => none) schema input <;> simp [Except.mapError]

theorem settled_of_extend {p : Policy} {schema extended : Node} {input : Json}
    (h : extend p schema input = .ok extended) : extended.Settled := by
  have hresult : p.outcome (schema.fieldIssues input Path.root) (schema.extended input) =
      .ok extended := (Node.extend_eq_outcome p input Path.root schema).symm.trans h
  rw [← Policy.eq_of_outcome hresult]
  exact Node.extended_settled input schema

/-- An extension has no blocks along its declared properties, is extended to
itself for every input and under every catalog, and is validated as the schema
that it came from. -/
theorem extension_settles (c : Catalog) (schema extended : Node) (input : Json)
    (h : extendUnder c schema input = .ok extended) :
    (∀ s, Relation.ReflTransGen Node.Declares extended (.spec s) → s.conditions = []) ∧
    (∀ (c' : Catalog) (input' : Json), extendUnder c' extended input' = .ok extended) ∧
    ∀ matcher? : String → Option (String → Bool),
      validateWith matcher? c extended input = validateWith matcher? c schema input := by
  have hsettled : extended.Settled :=
    settled_of_extend ((extendUnder_eq_ok_iff fun _ => none).mp h)
  refine ⟨hsettled, ?_, ?_⟩
  · intro c' input'
    exact (extendUnder_eq_ok_iff fun _ => none).mpr (hsettled.extend_eq _)
  · intro matcher?
    have hschema : extend (c.policy matcher?) schema input = .ok extended :=
      (extendUnder_eq_ok_iff matcher?).mp h
    have hextended : extend (c.policy matcher?) extended input = .ok extended :=
      hsettled.extend_eq _
    rw [validateWith_eq, validateWith_eq, check, check, hschema, hextended]

/-- An object whose first block has no path for its field; the second brings in
the property `n`, whose own block brings in `m`. -/
def blockInInjected : Node :=
  .spec { Spec.ofTag "object" with conditions := [
    ⟨"k..", [⟨some .equal, none, some [("n", .tag "null")], none, none⟩]⟩,
    ⟨"k", [⟨some .equal, some (.string "a"), some [("n", .spec { Spec.ofTag "object" with
      conditions := [⟨"k", [⟨some .notEqual, none, some [("m", .tag "string")], none, none⟩]⟩] })],
      none, none⟩]⟩] }

/-- The extension of `blockInInjected` if the field of its first block is passed over. -/
def blockInInjectedExtended : Node :=
  .spec { Spec.ofTag "object" with
    properties := .declared [("n", .spec { Spec.ofTag "object" with
      properties := .declared [("m", .tag "string")] })] }

/-- Without a template for invalid paths both blocks that can be read are
applied, the injected one included. -/
theorem blockInInjected_settles :
    extendUnder .empty blockInInjected (.object [("k", .string "a")]) =
      .ok blockInInjectedExtended ∧
    (∀ s, Relation.ReflTransGen Node.Declares blockInInjectedExtended (.spec s) →
      s.conditions = []) ∧
    extendUnder Catalog.builtin blockInInjectedExtended .null = .ok blockInInjectedExtended := by
  have h : extendUnder .empty blockInInjected (.object [("k", .string "a")]) =
      .ok blockInInjectedExtended := by
    cbv
  obtain ⟨hblocks, hextend, _⟩ := extension_settles _ _ _ _ h
  exact ⟨h, hblocks, hextend _ _⟩

end Conform
