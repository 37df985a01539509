import Conform.Proofs.Check.Revision
import Conform.Proofs.Extension.Frame

/-!
# Blocks that no verdict depends on

The walk of an extension goes along properties, declared or injected, and never
comes to a node for items, nor to a member of an enumeration.  A check does not
look at blocks at all.  So a schema is validated as it is without the blocks that
are out of reach, which an extension leaves where they are.
-/
namespace Conform

/-- The mode says whether a node is in reach of an extension; out of reach it loses its blocks.
The nodes for items and the members of enumerations are out of reach. -/
def Revision.prune : Revision Bool where
  inner := some false
  keeps reached _ := reached

/-- A schema without the blocks that no extension comes to. -/
def Node.pruned : Node → Node := Revision.prune.node true

theorem Revision.prune_unnoticed (p : Policy) : prune.Unnoticed false p where
  inner := rfl
  tag _ _ _ _ := rfl
  item _ _ _ _ := rfl
  eachTag _ _ := rfl

theorem check_pruned (p : Policy) (schema : Node) (input : Json) :
    check p schema.pruned input = check p schema input :=
  (Revision.prune_unnoticed p).check_eq (fun _ => rfl) Node.settled_tag schema input

/-- An extension keeps the order of keys, lets the last injected node stand for a key, and
changes nothing else; and the blocks that it leaves where they are can be deleted without any
difference to a validation. -/
theorem extension_frame (c : Catalog) (schema extended : Node) (root : Json)
    (hdistinct : schema.DistinctKeys) (h : extendUnder c schema root = .ok extended) :
    schema.ExtendsTo root extended ∧
    ∀ (matcher? : String → Option (String → Bool)) (c' : Catalog) (input : Json),
      validateWith matcher? c' schema.pruned input = validateWith matcher? c' schema input := by
  constructor
  · have hextend := (extendUnder_eq_ok_iff fun _ => none).mp h
    rw [extend, Node.extend_eq_outcome] at hextend
    rw [← Policy.eq_of_outcome hextend]
    exact schema.extendsTo_extended root hdistinct
  · intro matcher? c' input
    rw [validateWith_eq, validateWith_eq, check_pruned]

def blockedItems : Json :=
  .object [("type", .string "array"), ("items", .object [("type", .string "null"),
    ("if", .object [("value", .string "k.."), ("conditions", .array [])])])]

/-- An object with two blocks.  The first injects two maps, of which one is empty, and the second
an own entry for `a`, with a block of its own. -/
def twoBlocks : Json :=
  .object [("type", .string "object"),
    ("properties", .object [("a", .string "string"), ("b", blockedItems)]),
    ("if", .array [
      .object [("value", .string "k"), ("conditions", .array [
        .object [("operator", .string "="), ("value", .string "x"),
          ("addProperties", .object [("c", .string "number"), ("a", .string "boolean")])],
        .object [("operator", .string "!="), ("addProperties", .object [])]])],
      .object [("value", .string "k"), ("conditions", .object [
        ("operator", .string "typeof"), ("value", .string "string"),
        ("addProperties", .object [("d", .string "null"), ("a", .object [
          ("type", .string "object"),
          ("if", .object [("value", .string "k"), ("conditions", .object [
            ("operator", .string "="), ("value", .string "x"),
            ("addProperties", .object [("z", .string "null")])])])])])])]])]

def twoBlocksExtended : Json :=
  .object [("type", .string "object"),
    ("properties", .object [
      ("a", .object [("type", .string "object"),
        ("properties", .object [("z", .string "null")])]),
      ("b", blockedItems), ("c", .string "number"), ("d", .string "null")])]

/-- The key `a` keeps its place with the node of the second block, whose block is applied, and
the block below the items stays. -/
theorem extension_frame_twoBlocks :
    (Node.ofJson twoBlocks).DistinctKeys ∧
    extendUnder .builtin (Node.ofJson twoBlocks) (.object [("k", .string "x")]) =
      .ok (Node.ofJson twoBlocksExtended) ∧
    (Node.ofJson twoBlocks).ExtendsTo (.object [("k", .string "x")])
      (Node.ofJson twoBlocksExtended) ∧
    validateWith (fun _ => none) .builtin (Node.ofJson twoBlocks).pruned (.object []) =
      validateWith (fun _ => none) .builtin (Node.ofJson twoBlocks) (.object []) := by
  have hdistinct : twoBlocks.Distinct := by
    simp [twoBlocks, blockedItems, Table.keys]
  have hextend : extendUnder .builtin (Node.ofJson twoBlocks) (.object [("k", .string "x")]) =
      .ok (Node.ofJson twoBlocksExtended) := by
    cbv
  obtain ⟨hextends, hpruned⟩ :=
    extension_frame _ _ _ _ (Node.distinctKeys_ofJson hdistinct) hextend
  exact ⟨Node.distinctKeys_ofJson hdistinct, hextend, hextends, hpruned _ _ _⟩

end Conform
