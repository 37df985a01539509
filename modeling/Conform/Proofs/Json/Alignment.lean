import Conform.Json.Document
import Conform.Path.Basic
import Conform.Proofs.Table
import Conform.TypeTag
import Mathlib.Data.List.Forall2

/-!
# Values side by side

Two values are aligned if they are the same up to their items and members.
Values that differ in the order of their keys, at whatever depth, are aligned:
they have the same type and the same order among all values, look-ups lead to
values that differ in the order of keys again, and equality to a third value
does not tell them apart.  All this asks that no object has a key twice, which
is so in every value that is read from a text.
-/
namespace Conform.Json

/-- Two values are the same up to their items and members, which are related in
pairs. -/
inductive Aligned (V : Json → Json → Prop) : Json → Json → Prop where
  | null : Aligned V .null .null
  | bool (value : Bool) : Aligned V (.bool value) (.bool value)
  | number (n : Number) : Aligned V (.number n) (.number n)
  | string (text : String) : Aligned V (.string text) (.string text)
  | array {xs ys : List Json} (h : List.Forall₂ V xs ys) : Aligned V (.array xs) (.array ys)
  | object {ms ns : Table Json} (h : ∀ key, Option.Rel V (ms.get? key) (ns.get? key)) :
    Aligned V (.object ms) (.object ns)

namespace Aligned
variable {V : Json → Json → Prop} {v w : Json}

theorem of_eq (v : Json) : v.Aligned Eq v := by
  cases v with
  | null => exact .null
  | bool value => exact .bool value
  | number n => exact .number n
  | string text => exact .string text
  | array xs => exact .array (List.forall₂_same.mpr fun _ _ => rfl)
  | object ms =>
    refine .object fun key => ?_
    cases Table.get? ms key with
    | none => exact .none
    | some v => exact .some rfl

theorem isNull_eq (h : v.Aligned V w) : v.isNull = w.isNull := by
  cases h <;> rfl

theorem admits_eq (h : v.Aligned V w) (tag : TypeTag) : tag.admits v = tag.admits w := by
  cases h <;> cases tag <;> rfl

theorem hasType?_eq (h : v.Aligned V w) (tag : String) : v.hasType? tag = w.hasType? tag := by
  unfold hasType?
  simp only [h.admits_eq]

theorem compare?_eq (h : v.Aligned V w) (l : Json) : v.compare? l = w.compare? l := by
  cases h <;> cases l <;> rfl

end Aligned

/-- Two values differ at most in the order of the keys of the objects in them,
whose keys are distinct. -/
inductive Reordered : Json → Json → Prop where
  | null : Reordered .null .null
  | bool (value : Bool) : Reordered (.bool value) (.bool value)
  | number (n : Number) : Reordered (.number n) (.number n)
  | string (text : String) : Reordered (.string text) (.string text)
  | array {xs ys : List Json} (hlength : xs.length = ys.length)
    (h : ∀ (k : Nat) (x y : Json), xs[k]? = some x → ys[k]? = some y → Reordered x y) :
    Reordered (.array xs) (.array ys)
  | object {ms ns : Table Json} (hdistinct : ms.keys.Nodup) (hkeys : ms.keys.Perm ns.keys)
    (h : ∀ key v w, ms.get? key = some v → ns.get? key = some w → Reordered v w) :
    Reordered (.object ms) (.object ns)

/-- What relates the items of two arrays in pairs relates both item by item. -/
theorem forall₂_of_getElem? {V : Json → Json → Prop} {xs ys : List Json}
    (hlength : xs.length = ys.length)
    (h : ∀ (k : Nat) (x y : Json), xs[k]? = some x → ys[k]? = some y → V x y) :
    List.Forall₂ V xs ys :=
  List.forall₂_iff_get.mpr ⟨hlength, fun k hx hy => h k _ _ (by simp) (by simp)⟩

/-- Tables with the same keys hold related values if they do wherever both have one. -/
theorem rel_of_keys {V : Json → Json → Prop} {ms ns : Table Json} (hkeys : ms.keys.Perm ns.keys)
    (h : ∀ key v w, ms.get? key = some v → ns.get? key = some w → V v w) (key : String) :
    Option.Rel V (ms.get? key) (ns.get? key) := by
  have hmem : key ∈ ms.keys ↔ key ∈ ns.keys := hkeys.mem_iff
  cases hv : ms.get? key with
  | none =>
    rw [Table.get?_eq_none_iff, hmem, ← Table.get?_eq_none_iff] at hv
    rw [hv]
    exact .none
  | some v =>
    obtain ⟨w, hw⟩ := Table.mem_keys_iff.mp (hmem.mp (Table.mem_keys_iff.mpr ⟨v, hv⟩))
    rw [hw]
    exact .some (h key v w hv hw)

theorem Reordered.aligned {v w : Json} (h : v.Reordered w) : v.Aligned Reordered w := by
  cases h with
  | null => exact .null
  | bool value => exact .bool value
  | number n => exact .number n
  | string text => exact .string text
  | array hlength h => exact .array (forall₂_of_getElem? hlength h)
  | object _ hkeys h => exact .object (rel_of_keys hkeys h)

theorem getElem?_rel {V : Json → Json → Prop} {xs ys : List Json} (h : List.Forall₂ V xs ys)
    (k : Nat) :
    Option.Rel V xs[k]? ys[k]? := by
  induction h generalizing k with
  | nil => exact .none
  | cons hxy _ ih =>
    cases k with
    | zero => exact .some hxy
    | succ k => simpa using ih k

/-- A segment leads to related values or nowhere. -/
theorem Aligned.select?_rel {V : Json → Json → Prop} {v w : Json} (h : v.Aligned V w)
    (s : Segment) :
    Option.Rel V (s.select? v) (s.select? w) := by
  cases h with
  | array h =>
    cases s with
    | index k => exact getElem?_rel h k
    | key name =>
      simp only [Segment.select?]
      cases canonicalIndex? name.toList with
      | none => exact .none
      | some k => exact getElem?_rel h k
  | object h => exact h s.text
  | null | bool | number | string => exact .none

/-- A path leads to values that differ in the order of keys at most, or nowhere. -/
theorem Reordered.lookup?_rel {v w : Json} (h : v.Reordered w) (path : Path) :
    Option.Rel Reordered (path.lookup? v) (path.lookup? w) := by
  induction path generalizing v w with
  | nil => exact .some h
  | cons s rest ih =>
    simp only [Path.lookup?]
    have hstep := h.aligned.select?_rel s
    generalize s.select? v = v', s.select? w = w' at hstep
    cases hstep with
    | none => exact .none
    | some hnext => exact ih hnext

section
variable {V : Json → Json → Prop} {o o' : Option Json} {f g : Json → Bool}

theorem any_eq_of_rel (h : Option.Rel V o o') (hfg : ∀ v w, V v w → f v = g w) :
    o.any f = o'.any g := by
  cases h with
  | none => rfl
  | some h => exact hfg _ _ h

theorem all_eq_of_rel (h : Option.Rel V o o') (hfg : ∀ v w, V v w → f v = g w) :
    o.all f = o'.all g := by
  cases h with
  | none => rfl
  | some h => exact hfg _ _ h

end

/-- Neither value can be told from the other by comparing it to a third one. -/
structure Interchangeable (v w : Json) : Prop where
  left : ∀ l : Json, v.equal l = w.equal l
  right : ∀ l : Json, l.equal v = l.equal w

theorem Interchangeable.refl (v : Json) : v.Interchangeable v := ⟨fun _ => rfl, fun _ => rfl⟩

theorem Interchangeable.array {xs ys : List Json} (h : List.Forall₂ Interchangeable xs ys) :
    (Json.array xs).Interchangeable (.array ys) := by
  have hleft (ls : List Json) : equalItems xs ls = equalItems ys ls := by
    induction h generalizing ls with
    | nil => rfl
    | cons hxy _ ih => cases ls <;> simp [equalItems, hxy.left, ih]
  have hright (ls : List Json) : equalItems ls xs = equalItems ls ys := by
    clear hleft
    induction h generalizing ls with
    | nil => rfl
    | cons hxy _ ih => cases ls <;> simp [equalItems, hxy.right, ih]
  constructor
  · intro l
    cases l <;> simp [equal, hleft]
  · intro l
    cases l <;> simp [equal, hright]

theorem membersWithin_iff {ms ls : Table Json} : membersWithin ms ls = true ↔
    ∀ e ∈ ms, (ls.get? e.1).any (equal e.2) = true := by
  induction ms with
  | nil => simp [membersWithin]
  | cons e rest ih =>
    obtain ⟨key, x⟩ := e
    rw [membersWithin, Bool.and_eq_true, ih, List.forall_mem_cons]
    cases ls.get? key <;> simp

/-- Where no key occurs twice the members are compared key by key. -/
theorem membersWithin_iff_of_distinct {ms ls : Table Json} (h : ms.keys.Nodup) :
    membersWithin ms ls = true ↔
      ∀ key, (ms.get? key).all (fun v => (ls.get? key).any (equal v)) = true := by
  rw [membersWithin_iff]
  constructor
  · intro hall key
    cases hv : ms.get? key with
    | none => rfl
    | some v => exact hall (key, v) (Table.mem_of_get? hv)
  · rintro hall ⟨key, v⟩ hmem
    have hv := hall key
    rwa [(Table.get?_eq_some_iff h).mpr hmem] at hv

theorem Interchangeable.object {ms ns : Table Json} (hdistinct : ms.keys.Nodup)
    (hkeys : ms.keys.Perm ns.keys)
    (h : ∀ key, Option.Rel Interchangeable (ms.get? key) (ns.get? key)) :
    (Json.object ms).Interchangeable (.object ns) := by
  have hlength : ms.length = ns.length := by simpa [Table.keys] using hkeys.length_eq
  have hleft (ls : Table Json) : membersWithin ms ls = membersWithin ns ls := by
    have hall (key : String) : (ms.get? key).all (fun v => (ls.get? key).any (equal v)) =
        (ns.get? key).all fun v => (ls.get? key).any (equal v) :=
      all_eq_of_rel (h key) fun v w hvw => by rw [funext hvw.left]
    rw [Bool.eq_iff_iff, membersWithin_iff_of_distinct hdistinct,
      membersWithin_iff_of_distinct (hkeys.nodup_iff.mp hdistinct)]
    simp only [hall]
  have hright (ls : Table Json) : membersWithin ls ms = membersWithin ls ns := by
    rw [Bool.eq_iff_iff, membersWithin_iff, membersWithin_iff]
    refine forall₂_congr fun e _ => ?_
    rw [any_eq_of_rel (h e.1) fun v w hvw => hvw.right e.2]
  constructor
  · intro l
    cases l <;> simp [equal, hleft, hlength]
  · intro l
    cases l <;> simp [equal, hright, hlength]

theorem Reordered.interchangeable {v w : Json} (h : v.Reordered w) : v.Interchangeable w := by
  induction h with
  | null | bool | number | string => exact .refl _
  | array hlength _ ih => exact .array (forall₂_of_getElem? hlength ih)
  | object hdistinct hkeys _ ih => exact .object hdistinct hkeys (rel_of_keys hkeys ih)

theorem Reordered.object_self {ms : Table Json} (hdistinct : ms.keys.Nodup)
    (h : ∀ e ∈ ms, e.2.Reordered e.2) : (Json.object ms).Reordered (.object ms) := by
  refine .object hdistinct (List.Perm.refl _) fun key v w hv hw => ?_
  rw [hv] at hw
  cases hw
  exact h (key, v) (Table.mem_of_get? hv)

/-- Two members in the other order. -/
theorem Reordered.object_swap {j k : String} {v v' w w' : Json} (hne : j ≠ k)
    (hv : v.Reordered v') (hw : w.Reordered w') :
    (Json.object [(j, v), (k, w)]).Reordered (.object [(k, w'), (j, v')]) := by
  refine .object (by simp [Table.keys, hne]) (List.Perm.swap k j []) fun key x y hx hy => ?_
  rcases List.mem_pair.mp (Table.mem_of_get? hx) with ⟨rfl, rfl⟩ | ⟨rfl, rfl⟩
  · rw [Table.get?_cons, if_neg hne.symm, Table.get?_cons, if_pos rfl] at hy
    exact Option.some.inj hy ▸ hv
  · rw [Table.get?_cons, if_pos rfl] at hy
    exact Option.some.inj hy ▸ hw

namespace Document
mutual

theorem reordered_of_value? {levels : Nat} {d : Document} {v : Json}
    (h : d.value? levels = some v) : v.Reordered v := by
  cases d with
  | null =>
    cases h
    exact .null
  | bool b =>
    cases h
    exact .bool b
  | number literal =>
    obtain ⟨n, -, rfl⟩ := Option.map_eq_some_iff.mp h
    exact .number n
  | string units =>
    obtain ⟨text, -, rfl⟩ := Option.map_eq_some_iff.mp h
    exact .string text
  | array items =>
    rw [value?] at h
    split at h
    · cases h
    · obtain ⟨vs, hvs, rfl⟩ := Option.map_eq_some_iff.mp h
      refine .array rfl fun k x y hx hy => ?_
      rw [hx] at hy
      cases hy
      exact reordered_of_itemValues? hvs x (List.mem_of_getElem? hx)
  | object members =>
    rw [value?] at h
    split at h
    · cases h
    · obtain ⟨vs, hvs, rfl⟩ := Option.map_eq_some_iff.mp h
      refine .object_self (Table.nodup_keys_merge List.nodup_nil) fun e he => ?_
      rcases Table.mem_merge he with he | he
      · cases he
      · exact reordered_of_memberValues? hvs e he
termination_by structural d

theorem reordered_of_itemValues? {levels : Nat} {items : List Document} {vs : List Json}
    (h : itemValues? levels items = some vs) : ∀ v ∈ vs, v.Reordered v := by
  cases items with
  | nil =>
    cases h
    simp
  | cons d rest =>
    simp only [itemValues?, Option.bind_eq_bind, Option.bind_eq_some_iff] at h
    obtain ⟨v, hv, vs, hvs, h⟩ := h
    cases h
    exact List.forall_mem_cons.mpr ⟨reordered_of_value? hv, reordered_of_itemValues? hvs⟩
termination_by structural items

theorem reordered_of_memberValues? {levels : Nat} {members : List (List TextUnit × Document)}
    {vs : List (String × Json)} (h : memberValues? levels members = some vs) :
    ∀ e ∈ vs, e.2.Reordered e.2 := by
  cases members with
  | nil =>
    cases h
    simp
  | cons member rest =>
    obtain ⟨key, d⟩ := member
    simp only [memberValues?, Option.bind_eq_bind, Option.bind_eq_some_iff] at h
    obtain ⟨name, -, v, hv, vs, hvs, h⟩ := h
    cases h
    exact List.forall_mem_cons.mpr ⟨reordered_of_value? hv, reordered_of_memberValues? hvs⟩
termination_by structural members

end
end Document

/-- Keys are distinct in every value that is read. -/
theorem reordered_of_parse? {text : String} {v : Json} (h : Json.parse? text = some v) :
    v.Reordered v := by
  obtain ⟨d, -, hd⟩ := Option.bind_eq_some_iff.mp h
  exact Document.reordered_of_value? hd

end Conform.Json
