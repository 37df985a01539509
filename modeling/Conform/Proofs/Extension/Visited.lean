import Conform.Proofs.Check.Listing
import Conform.Proofs.Schema.Readable

/-!
# Where an extension fails

The walk of an extension visits a specification, applies its blocks, and goes on
with the properties that there are then: what a block has injected is visited,
and what it has replaced is not.  It fails at the first block on its way whose
field is not a path, if there is a template for that, and never otherwise.
-/
namespace Conform

/-- The specifications that the walk visits, each with the keys of the properties that lead to
it, a specification before its properties. -/
def Node.visited (root : Json) (keys : List String) : Node → List (List String × Spec)
  | spec s => (keys, s) :: (s.applied root).properties.entries.attach.flatMap fun e =>
      e.1.2.visited root (keys ++ [e.1.1])
  | _ => []
termination_by n => n.depth
decreasing_by exact Spec.depth_of_mem_applied e.2

/-- The block of a specification at some keys is the first one on the walk whose field is not
a path, and this is what is wrong with the field. -/
def Node.FirstUnreadable (n : Node) (root : Json) (keys : List String) (s : Spec)
    (b : Block (Table Node)) (failure : Path.SyntaxError) : Prop :=
  ∃ before after earlier later, n.visited root [] = before ++ (keys, s) :: after ∧
    (∀ v ∈ before, ∀ b' ∈ v.2.conditions, b'.isReadable = true) ∧
    s.conditions = earlier ++ b :: later ∧ (∀ b' ∈ earlier, b'.isReadable = true) ∧
    Path.parse b.field = .error failure

namespace Node
variable (root : Json) (keys : List String)

@[simp] theorem visited_tag (name : String) : (tag name).visited root keys = [] := by
  simp [visited]

@[simp] theorem visited_enum (members : List Member) : (enum members).visited root keys = [] := by
  simp [visited]

theorem visited_spec (s : Spec) : (spec s).visited root keys =
    (keys, s) :: (s.applied root).properties.entries.flatMap fun e =>
      e.2.visited root (keys ++ [e.1]) := by
  simp only [visited, List.flatMap_def]
  rw [List.attach_map_val (f := fun e : String × Node => e.2.visited root (keys ++ [e.1]))]

/-- The issues of an extension are those of the blocks on its walk. -/
theorem fieldIssues_eq_visited (n : Node) : n.fieldIssues root (keys.map .key) =
    (n.visited root keys).flatMap fun v =>
      v.2.conditions.flatMap (v.2.fieldIssues (v.1.map .key)) := by
  generalize hhere : keys.map Segment.key = here
  induction here, n using Node.applied_induction root generalizing keys with
  | tag here name => simp
  | enum here members => simp
  | spec here s ih =>
    subst hhere
    rw [fieldIssues_spec, visited_spec, List.flatMap_cons, List.flatMap_assoc]
    refine congrArg _ (List.flatMap_congr fun e he => ih e.1 e.2 he (keys ++ [e.1]) ?_)
    rw [List.map_append]
    rfl

end Node

section
variable {root : Json} {here : Path} {n : Node} {s : Spec} {b : Block (Table Node)} {i : Issue}

theorem Spec.head?_fieldIssues_eq_some_iff : (s.fieldIssues here b).head? = some i ↔
    ∃ failure, Path.parse b.field = .error failure ∧
      i = invalidPathIssue s here b.field failure.reason := by
  unfold fieldIssues
  cases Path.parse b.field with
  | ok field => simp
  | error failure => simp [eq_comm]

theorem Spec.flatMap_fieldIssues_eq_nil_iff {blocks : List (Block (Table Node))} :
    blocks.flatMap (s.fieldIssues here) = [] ↔ ∀ b ∈ blocks, b.isReadable = true := by
  simp only [List.flatMap_eq_nil_iff, fieldIssues_eq_nil_iff]

/-- There is no issue just if all fields on the walk are paths. -/
theorem Node.fieldIssues_eq_nil_iff : n.fieldIssues root Path.root = [] ↔
    ∀ v ∈ n.visited root [], ∀ b ∈ v.2.conditions, b.isReadable = true := by
  have hvisited := n.fieldIssues_eq_visited root []
  rw [List.map_nil] at hvisited
  rw [Path.root, hvisited, List.flatMap_eq_nil_iff]
  simp only [Spec.flatMap_fieldIssues_eq_nil_iff]

/-- There is a first issue just if some field on the walk is not a path. -/
theorem Node.exists_head?_fieldIssues_iff :
    (∃ i, (n.fieldIssues root Path.root).head? = some i) ↔
      ∃ v ∈ n.visited root [], ∃ b ∈ v.2.conditions, b.isReadable = false := by
  rw [← Option.isSome_iff_exists, ← Option.ne_none_iff_isSome, ne_eq, List.head?_eq_none_iff,
    fieldIssues_eq_nil_iff]
  simp

/-- The first issue is that of the first block whose field is not a path. -/
theorem Node.head?_fieldIssues_eq_some_iff : (n.fieldIssues root Path.root).head? = some i ↔
    ∃ keys s b failure, n.FirstUnreadable root keys s b failure ∧
      i = invalidPathIssue s (keys.map .key) b.field failure.reason := by
  have hvisited := n.fieldIssues_eq_visited root []
  rw [List.map_nil] at hvisited
  rw [Path.root, hvisited, List.head?_flatMap, List.findSome?_eq_some_iff]
  simp only [List.head?_eq_none_iff, Spec.flatMap_fieldIssues_eq_nil_iff]
  constructor
  · rintro ⟨before, ⟨keys, s⟩, after, hwalk, hfirst, hbefore⟩
    rw [List.head?_flatMap, List.findSome?_eq_some_iff] at hfirst
    obtain ⟨earlier, b, later, hblocks, hb, hearlier⟩ := hfirst
    simp only [List.head?_eq_none_iff, Spec.fieldIssues_eq_nil_iff] at hearlier
    obtain ⟨failure, hparse, hi⟩ := Spec.head?_fieldIssues_eq_some_iff.mp hb
    exact ⟨keys, s, b, failure, ⟨before, after, earlier, later, hwalk, hbefore, hblocks, hearlier,
      hparse⟩, hi⟩
  · rintro ⟨keys, s, b, failure, ⟨before, after, earlier, later, hwalk, hbefore, hblocks, hearlier,
      hparse⟩, hi⟩
    refine ⟨before, (keys, s), after, hwalk, ?_, hbefore⟩
    rw [List.head?_flatMap, List.findSome?_eq_some_iff]
    refine ⟨earlier, b, later, hblocks,
      Spec.head?_fieldIssues_eq_some_iff.mpr ⟨failure, hparse, hi⟩, ?_⟩
    simpa only [List.head?_eq_none_iff, Spec.fieldIssues_eq_nil_iff] using hearlier

end

section
variable {c : Catalog} {schema : Node} {input : Json}

theorem extendUnder_eq_outcome (c : Catalog) (schema : Node) (input : Json) :
    extendUnder c schema input =
      c.outcome (schema.fieldIssues input Path.root) (schema.extended input) := by
  rw [extendUnder_eq, extend, Node.extend_eq_outcome, Catalog.mapError_outcome]

/-- A catalog without a template for invalid paths lets every extension through. -/
theorem extendUnder_of_not_covers (h : c.covers .schema .invalidPath = false) (schema : Node)
    (input : Json) : extendUnder c schema input = .ok (schema.extended input) := by
  have hnone : (schema.fieldIssues input Path.root).findSome? c.report? = none := by
    rw [List.findSome?_eq_none_iff]
    intro i hi
    obtain ⟨hdomain, hcode⟩ := Node.code_of_mem_fieldIssues hi
    simp [Catalog.report?, hdomain, hcode, h]
  rw [extendUnder_eq_outcome, Catalog.outcome, hnone]

/-- A catalog with such a template reports the first issue. -/
theorem extendUnder_of_covers (h : c.covers .schema .invalidPath = true) (schema : Node)
    (input : Json) : extendUnder c schema input =
      match (schema.fieldIssues input Path.root).head? with
      | some i => .error (c.report i)
      | none => .ok (schema.extended input) := by
  rw [extendUnder_eq_outcome, Catalog.outcome]
  cases hissues : schema.fieldIssues input Path.root with
  | nil => rfl
  | cons i rest =>
    have hi : i ∈ schema.fieldIssues input Path.root := by simp [hissues]
    obtain ⟨hdomain, hcode⟩ := Node.code_of_mem_fieldIssues hi
    simp [Catalog.report?, hdomain, hcode, h]

/-- An extension fails just if there is a template for invalid paths and a first issue, and
with the report of this issue. -/
theorem extendUnder_eq_error_iff {e : Report} : extendUnder c schema input = .error e ↔
    c.covers .schema .invalidPath = true ∧
      ∃ i, (schema.fieldIssues input Path.root).head? = some i ∧ e = c.report i := by
  cases h : c.covers .schema .invalidPath with
  | false => simp [extendUnder_of_not_covers h]
  | true =>
    rw [extendUnder_of_covers h]
    cases (schema.fieldIssues input Path.root).head? with
    | none => simp
    | some i => simp [eq_comm]

theorem Catalog.report_invalidPathIssue {template : String}
    (h : c.template? .schema .invalidPath = some template) (s : Spec) (here : Path)
    (field reason : String) : c.report (invalidPathIssue s here field reason) =
      { domain := .schema
        code := .invalidPath
        path := here
        message := render template
          [("expression", field), ("reason", reason), ("path", here.text)]
        annotations := s.annotations } := by
  simp only [report, invalidPathIssue, h]
  rfl

end

/-- An extension fails just if there is a template for invalid paths and the walk visits a block
whose field is not a path; the report is about the first such block, at the keys that lead to its
specification and with the annotations of it.  Without the template every extension succeeds,
with the result for the schema from which the blocks without a path are deleted. -/
theorem extension_fails_at_first_unreadable (c : Catalog) (schema : Node) (input : Json) :
    ((∃ e, extendUnder c schema input = .error e) ↔ c.covers .schema .invalidPath = true ∧
      ∃ v ∈ schema.visited input [], ∃ b ∈ v.2.conditions, b.isReadable = false) ∧
    (∀ e, extendUnder c schema input = .error e ↔ ∃ template keys s b failure,
      c.template? .schema .invalidPath = some template ∧
      schema.FirstUnreadable input keys s b failure ∧
      e = { domain := .schema
            code := .invalidPath
            path := keys.map .key
            message := render template [("expression", b.field), ("reason", failure.reason),
              ("path", Path.text (keys.map .key))]
            annotations := s.annotations }) ∧
    (c.covers .schema .invalidPath = false →
      ∃ extended, extendUnder c schema input = .ok extended ∧
        ∀ c', extendUnder c' schema.keepReadable input = .ok extended) := by
  refine ⟨?_, fun e => ?_, fun hcovers => ?_⟩
  · rw [← Node.exists_head?_fieldIssues_iff]
    simp only [extendUnder_eq_error_iff]
    constructor
    · rintro ⟨_, hcovers, i, hi, -⟩
      exact ⟨hcovers, i, hi⟩
    · rintro ⟨hcovers, i, hi⟩
      exact ⟨c.report i, hcovers, i, hi, rfl⟩
  · rw [extendUnder_eq_error_iff, Catalog.covers, Option.isSome_iff_exists]
    simp only [Node.head?_fieldIssues_eq_some_iff]
    constructor
    · rintro ⟨⟨template, htemplate⟩, _, ⟨keys, s, b, failure, hfirst, rfl⟩, rfl⟩
      exact ⟨template, keys, s, b, failure, htemplate, hfirst,
        Catalog.report_invalidPathIssue htemplate ..⟩
    · rintro ⟨template, keys, s, b, failure, htemplate, hfirst, rfl⟩
      exact ⟨⟨template, htemplate⟩, _, ⟨keys, s, b, failure, hfirst, rfl⟩,
        (Catalog.report_invalidPathIssue htemplate ..).symm⟩
  · refine ⟨schema.extended input, extendUnder_of_not_covers hcovers schema input, fun c' => ?_⟩
    rw [extendUnder_eq_outcome, Node.fieldIssues_keepReadable, Node.extended_keepReadable]
    rfl

/-- A specification of an object with a title and a block for a given field. -/
def titledBlock (title field : String) : Node :=
  .spec { Spec.ofTag "object" with
    annotations := { title := some (.string title) }
    conditions := [⟨field, []⟩] }

/-- Two properties, of which the first has a block without a path, and a block that replaces
this property and injects one with such a block. -/
def unreadableInjected : Node :=
  .spec { Spec.ofTag "object" with
    properties := .declared [("a", titledBlock "declared" "x.."), ("b", titledBlock "kept" "x")]
    conditions := [⟨"k", [⟨some .equal, some (.string "on"),
      some [("c", titledBlock "injected" "z["), ("a", .tag "null")], none, none⟩]⟩] }

/-- The report is about the injected property; the one that is replaced is not visited. -/
theorem extension_fails_at_first_unreadable_injected :
    let input := Json.object [("k", .string "on")]
    (∃ v ∈ unreadableInjected.visited input [], ∃ b ∈ v.2.conditions, b.isReadable = false) ∧
    (∃ s b failure e, unreadableInjected.FirstUnreadable input ["c"] s b failure ∧
      extendUnder .builtin unreadableInjected input = .error e ∧ e.path = [.key "c"] ∧
      e.annotations.title = some (.string "injected")) ∧
    Catalog.empty.covers .schema .invalidPath = false ∧
    ∃ extended, extendUnder .empty unreadableInjected input = .ok extended ∧
      extendUnder .builtin unreadableInjected.keepReadable input = .ok extended := by
  intro input
  have hcovers : Catalog.empty.covers .schema .invalidPath = false := by decide
  obtain ⟨e, herror, hpath, htitle⟩ : ∃ e,
      extendUnder .builtin unreadableInjected input = .error e ∧ e.path = [.key "c"] ∧
      e.annotations.title = some (.string "injected") :=
    ⟨_, by cbv, rfl, rfl⟩
  obtain ⟨hfails, hfirst, -⟩ :=
    extension_fails_at_first_unreadable .builtin unreadableInjected input
  obtain ⟨-, -, hskips⟩ := extension_fails_at_first_unreadable .empty unreadableInjected input
  obtain ⟨_, keys, s, b, failure, -, hunreadable, he⟩ := (hfirst e).mp herror
  have hkeys : keys = ["c"] := by
    subst he
    cases keys with
    | nil => simp at hpath
    | cons key rest => simpa using hpath
  subst hkeys
  obtain ⟨extended, hextended, hsame⟩ := hskips hcovers
  exact ⟨(hfails.mp ⟨e, herror⟩).2, ⟨s, b, failure, e, hunreadable, herror, hpath, htitle⟩, hcovers,
    extended, hextended, hsame .builtin⟩

end Conform
