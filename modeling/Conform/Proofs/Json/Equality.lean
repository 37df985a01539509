import Conform.Proofs.Schema.Distinct
import Mathlib.Data.List.Perm.Subperm

/-!
# Equality of values

Two objects are equal if their members are, key by key.  The comparison goes
through the keys of the first one only and compares the numbers of members; since
no key occurs twice, the two objects have the same keys then.  So equality is
reflexive and symmetric, and does not see the order of keys.
-/
namespace Conform.Json

/-- If all keys are found in a table of the same length, they are its keys. -/
theorem keys_perm_of_membersWithin {ms ns : Table Json} (hdistinct : ms.keys.Nodup)
    (hlength : ms.length = ns.length) (h : membersWithin ms ns = true) :
    ms.keys.Perm ns.keys := by
  have hsubset : ms.keys ⊆ ns.keys := by
    intro key hkey
    obtain ⟨e, he, rfl⟩ := List.mem_map.mp hkey
    obtain ⟨w, hw, -⟩ := (Option.any_eq_true ..).mp (membersWithin_iff.mp h e he)
    exact Table.mem_keys_iff.mpr ⟨w, hw⟩
  refine (List.subperm_of_subset hdistinct hsubset).perm_of_length_le ?_
  simp [Table.keys, hlength]

/-- Objects are equal if both have the same keys, with equal values. -/
theorem equal_object_iff {ms ns : Table Json} (hms : ms.keys.Nodup) (hns : ns.keys.Nodup) :
    (object ms).equal (object ns) = true ↔
      ∀ key, Option.Rel (fun v w => v.equal w = true) (ms.get? key) (ns.get? key) := by
  rw [equal, Bool.and_eq_true, decide_eq_true_eq]
  constructor
  · rintro ⟨hlength, h⟩
    refine rel_of_keys (keys_perm_of_membersWithin hms hlength h) fun key v w hv hw => ?_
    simpa [hv, hw] using (membersWithin_iff_of_distinct hms).mp h key
  · intro h
    have hkeys : ms.keys.Perm ns.keys := by
      rw [List.perm_ext_iff_of_nodup hms hns]
      intro key
      have hrel := h key
      rw [Table.mem_keys_iff, Table.mem_keys_iff]
      generalize ms.get? key = o, ns.get? key = o' at hrel
      cases hrel <;> simp
    refine ⟨by simpa [Table.keys] using hkeys.length_eq, ?_⟩
    rw [membersWithin_iff_of_distinct hms]
    intro key
    have hrel := h key
    generalize ms.get? key = o, ns.get? key = o' at hrel
    cases hrel with
    | none => rfl
    | some hvw => simpa using hvw

/-- Arrays are equal if their items are in pairs. -/
theorem equalItems_iff {xs ys : List Json} :
    equalItems xs ys = true ↔ List.Forall₂ (fun x y => x.equal y = true) xs ys := by
  induction xs generalizing ys with
  | nil => cases ys <;> simp [equalItems]
  | cons x xs ih => cases ys <;> simp [equalItems, ih]

/-- A value equals itself in another order of keys. -/
theorem Reordered.equal {v w : Json} (h : v.Reordered w) : v.equal w = true := by
  induction h with
  | null => rfl
  | bool b => simp [Json.equal]
  | number n => exact n.equal_self
  | string text => simp [Json.equal]
  | array hlength _ ih => exact equalItems_iff.mpr (forall₂_of_getElem? hlength ih)
  | object hdistinct hkeys _ ih =>
    exact (equal_object_iff hdistinct (hkeys.nodup_iff.mp hdistinct)).mpr (rel_of_keys hkeys ih)

theorem equalItems_comm {xs ys : List Json}
    (h : List.Forall₂ (fun x y => ∀ l : Json, l.Distinct → x.equal l = l.equal y) xs ys)
    (ls : List Json) (hls : ∀ l ∈ ls, l.Distinct) : equalItems xs ls = equalItems ls ys := by
  induction h generalizing ls with
  | nil => cases ls <;> rfl
  | cons hxy _ ih =>
    cases ls with
    | nil => rfl
    | cons l rest =>
      rw [List.forall_mem_cons] at hls
      rw [equalItems, equalItems, hxy l hls.1, ih rest hls.2]

/-- The sides may be exchanged, and the order of keys be changed on the way. -/
theorem Reordered.equal_comm {v w : Json} (h : v.Reordered w) {l : Json} (hl : l.Distinct) :
    v.equal l = l.equal w := by
  induction h generalizing l with
  | null => cases l <;> rfl
  | bool b => cases l <;> simp [Json.equal, eq_comm]
  | number n =>
    cases l with
    | number m => exact n.equal_comm m
    | null | bool | string | array | object => rfl
  | string text => cases l <;> simp [Json.equal, eq_comm]
  | @array xs ys hlength _ ih =>
    cases l with
    | array ls =>
      refine equalItems_comm (forall₂_of_getElem? hlength fun k x y hx hy l hl => ?_) ls
        fun l => hl.item
      exact ih k x y hx hy hl
    | null | bool | number | string | object => rfl
  | @object ms ns hdistinct hkeys _ ih =>
    cases l with
    | object ls =>
      rw [Bool.eq_iff_iff, equal_object_iff hdistinct hl.keys,
        equal_object_iff hl.keys (hkeys.nodup_iff.mp hdistinct)]
      refine forall_congr' fun key => ?_
      have hrel := rel_of_keys (V := fun v w => ∀ l : Json, l.Distinct → v.equal l = l.equal w)
        hkeys (fun key v w hv hw l hl => ih key v w hv hw hl) key
      have hmember {l : Json} : Table.get? ls key = some l → l.Distinct := hl.member
      generalize ms.get? key = o, ns.get? key = o', Table.get? ls key = found at hrel hmember
      cases hrel with
      | none => cases found <;> simp
      | some hvw =>
        cases found with
        | none => simp
        | some l => simp [hvw l (hmember rfl)]
    | null | bool | number | string | array => rfl

/-- Equality is reflexive and symmetric on values without repeated keys, and it does
not see the order of keys, at whatever depth and on either side. -/
theorem equal_ignores_key_order :
    (∀ a : Json, a.Distinct → a.equal a = true) ∧
    (∀ a b : Json, a.Distinct → b.Distinct → a.equal b = b.equal a) ∧
    (∀ a a' b b' : Json, a.Reordered a' → b.Reordered b' → a'.equal b' = a.equal b) := by
  refine ⟨fun a ha => Reordered.equal ha, fun a b ha hb => Reordered.equal_comm ha hb, ?_⟩
  intro a a' b b' ha hb
  calc a'.equal b' = a.equal b' := (ha.interchangeable.left b').symm
    _ = a.equal b := (hb.interchangeable.right a).symm

/-- An object beside a number, which is an integer here. -/
def unitFirst : Json :=
  .object [("n", .number (.integer 1)),
    ("o", .array [.object [("x", .null), ("y", .bool true)]])]

def unitLast : Json :=
  .object [("o", .array [.object [("y", .bool true), ("x", .null)]]),
    ("n", .number (.integer 1))]

/-- The same with the number as a double. -/
def unitDouble : Json :=
  .object [("n", .number (.double ⟨false, 0x10000000000000, -52⟩)),
    ("o", .array [.object [("x", .null), ("y", .bool true)]])]

/-- One is equal to `1.0` from both sides, beside objects in any order of keys. -/
theorem unitLast_equal_unitDouble :
    unitFirst.Distinct ∧ unitDouble.Distinct ∧ unitFirst.Reordered unitLast ∧
    unitFirst.equal unitFirst = true ∧
    unitFirst.equal unitDouble = unitDouble.equal unitFirst ∧
    unitLast.equal unitDouble = true := by
  have hfirst : unitFirst.Distinct := by simp [unitFirst, Table.keys]
  have hdouble : unitDouble.Distinct := by simp [unitDouble, Table.keys]
  have hinner : (Json.object [("x", .null), ("y", .bool true)]).Reordered
      (.object [("y", .bool true), ("x", .null)]) :=
    .object_swap (by decide) .null (.bool true)
  have hreordered : unitFirst.Reordered unitLast := by
    refine .object_swap (by decide) (.number _) (.array rfl fun k x y hx hy => ?_)
    cases k with
    | zero =>
      cases hx
      cases hy
      exact hinner
    | succ k => cases hx
  obtain ⟨hrefl, hcomm, hblind⟩ := equal_ignores_key_order
  exact ⟨hfirst, hdouble, hreordered, hrefl _ hfirst, hcomm _ _ hfirst hdouble,
    (hblind _ _ _ _ hreordered hdouble).trans (by decide +kernel)⟩

end Conform.Json
