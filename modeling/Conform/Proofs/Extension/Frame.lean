import Conform.Proofs.Extension.Fixpoint
import Conform.Proofs.Extension.Reading
import Conform.Proofs.Schema.Distinct

/-!
# What an extension changes

The blocks of a specification inject maps into its properties, one after the
other.  Keys keep their order, new ones follow in the order in which they are
injected, and of several nodes for a key the last one is extended in its place.
Apart from that a specification loses its blocks and keeps all else, its items
and its type included, with whatever blocks are in there.
-/
namespace Conform

/-- The maps that the blocks inject: for each block whose field can be read, in the order of
its rules, what the rules that apply add. -/
def Spec.injections (root : Json) (s : Spec) : List (Table Node) :=
  s.conditions.flatMap fun b =>
    match Path.parse b.field with
    | .ok field => b.additions (field.lookup? root)
    | .error _ => []

/-- The node for a key after the injections: that of the last map that has the key, or else
the one that is declared. -/
def Spec.lastWritten? (root : Json) (s : Spec) (key : String) : Option Node :=
  ((s.injections root).reverse.findSome? fun extra => extra.get? key).or
    (s.properties.entries.get? key)

/-- The keys that are injected and not declared, in the order of their first injection. -/
def Spec.newKeys (root : Json) (s : Spec) : List String :=
  (((s.injections root).flatMap Table.keys).filter (· ∉ s.properties.entries.keys)).eraseDups

/-- What becomes of a node, for an input with the given root. -/
inductive Node.ExtendsTo (root : Json) : Node → Node → Prop where
  | tag (name : String) : ExtendsTo root (.tag name) (.tag name)
  | enum (members : List Member) : ExtendsTo root (.enum members) (.enum members)
  /-- No map is injected and no table declared. -/
  | bare {s : Spec} (hnone : s.injections root = [])
      (hbare : ∀ table, s.properties ≠ .declared table) :
      ExtendsTo root (.spec s) (.spec { s with conditions := [] })
  /-- No map is injected. -/
  | declared {s : Spec} {table table' : Table Node} (hnone : s.injections root = [])
      (hdeclared : s.properties = .declared table) (hkeys : table'.keys = table.keys)
      (hnodes : ∀ key old new, table.get? key = some old → table'.get? key = some new →
        ExtendsTo root old new) :
      ExtendsTo root (.spec s) (.spec { s with conditions := [], properties := .declared table' })
  /-- Some maps are injected, be they empty. -/
  | injected {s : Spec} {table' : Table Node} (hsome : s.injections root ≠ [])
      (hkeys : table'.keys = s.properties.entries.keys ++ s.newKeys root)
      (hnodes : ∀ key old new, s.lastWritten? root key = some old → table'.get? key = some new →
        ExtendsTo root old new) :
      ExtendsTo root (.spec s) (.spec { s with conditions := [], properties := .declared table' })

section
variable {root : Json} {s : Spec}

theorem Spec.applied_eq_injections (root : Json) (s : Spec) :
    s.applied root = (s.injections root).foldl inject { s with conditions := [] } := by
  rw [injections, List.foldl_flatMap, applied]
  congr
  funext s b
  unfold applyReadable
  cases Path.parse b.field <;> rfl

theorem Spec.foldl_inject (extras : List (Table Node)) (s : Spec) :
    extras.foldl inject s =
      { s with properties := extras.foldl Properties.merge s.properties } := by
  induction extras generalizing s with
  | nil => cases s; rfl
  | cons extra rest ih =>
    rw [List.foldl_cons, ih]
    rfl

theorem Properties.foldl_merge_declared (table : Table Node) (extras : List (Table Node)) :
    extras.foldl merge (declared table) = declared (extras.foldl Table.merge table) := by
  induction extras generalizing table with
  | nil => rfl
  | cons extra rest ih => exact ih (table.merge extra)

/-- Injecting anything leaves a table, the one of all that was written. -/
theorem Properties.foldl_merge {extras : List (Table Node)} (hsome : extras ≠ [])
    (hdistinct : ∀ extra ∈ extras, extra.keys.Nodup) (ps : Properties) :
    extras.foldl merge ps = declared (extras.foldl Table.merge ps.entries) := by
  cases ps with
  | declared table => exact foldl_merge_declared table extras
  | undeclared | malformed =>
    obtain ⟨extra, rest, rfl⟩ := List.exists_cons_of_ne_nil hsome
    have hfirst : Table.merge [] extra = extra :=
      Table.merge_of_nodup (hdistinct extra (List.mem_cons_self ..))
    have hrest : (extra :: rest).foldl Table.merge [] = rest.foldl Table.merge extra := by
      rw [List.foldl_cons, hfirst]
    exact (foldl_merge_declared extra rest).trans (congrArg declared hrest.symm)

theorem Spec.applied_of_no_injections (h : s.injections root = []) :
    s.applied root = { s with conditions := [] } := by
  rw [applied_eq_injections, h, List.foldl_nil]

theorem Spec.applied_of_injections (hsome : s.injections root ≠ [])
    (hdistinct : ∀ extra ∈ s.injections root, extra.keys.Nodup) :
    s.applied root = { s with
      conditions := []
      properties := .declared ((s.injections root).foldl Table.merge s.properties.entries) } := by
  rw [applied_eq_injections, foldl_inject, Properties.foldl_merge hsome hdistinct]

theorem Spec.adds_of_mem_injections {extra : Table Node} (h : extra ∈ s.injections root) :
    ∃ b ∈ s.conditions, b.Adds extra := by
  obtain ⟨b, hb, hadded⟩ := List.mem_flatMap.mp h
  split at hadded
  · exact ⟨b, hb, Block.adds_of_mem_additions hadded⟩
  · cases hadded

theorem Node.DistinctKeys.injections (h : (Node.spec s).DistinctKeys) :
    ∀ extra ∈ s.injections root, extra.keys.Nodup := by
  intro extra hextra
  obtain ⟨b, hb, hadds⟩ := Spec.adds_of_mem_injections hextra
  exact (h s (.refl _)).2 b hb extra hadds

/-- Each entry is extended under its key. -/
theorem Node.extendsTo_extended (root : Json) (n : Node) (h : n.DistinctKeys) :
    n.ExtendsTo root (n.extended root) := by
  induction Path.root, n using Node.applied_induction root with
  | tag here name =>
    rw [extended_tag]
    exact .tag name
  | enum here members =>
    rw [extended_enum]
    exact .enum members
  | spec here s ih =>
    have hchild {key : String} {old new : Node}
        (hold : (s.applied root).properties.entries.get? key = some old)
        (hnew : ((s.applied root).properties.entries.mapValues (extended root)).get? key =
          some new) : old.ExtendsTo root new := by
      have hmem := Table.mem_of_get? hold
      rw [Table.get?_mapValues, hold, Option.map_some, Option.some.injEq] at hnew
      rw [← hnew]
      exact ih key old hmem (h.of_holds (Spec.holds_of_mem_applied hmem))
    rw [extended_spec]
    by_cases hnone : s.injections root = []
    · rw [Spec.applied_of_no_injections hnone] at hchild ⊢
      cases hp : s.properties with
      | declared table =>
        simp only [hp] at hchild ⊢
        exact .declared hnone hp (Table.keys_mapValues _ _) fun _ _ _ => hchild
      | undeclared | malformed =>
        have hbare := ExtendsTo.bare hnone (by simp [hp])
        rw [hp] at hbare
        exact hbare
    · have hdistinct : ∀ extra ∈ s.injections root, extra.keys.Nodup := h.injections
      rw [Spec.applied_of_injections hnone hdistinct] at hchild ⊢
      apply ExtendsTo.injected hnone
      · exact (Table.keys_mapValues _ _).trans (Table.keys_foldl_merge _ _)
      · intro key old new hold hnew
        exact hchild ((Table.get?_foldl_merge _ hdistinct key).trans hold) hnew

end
end Conform
