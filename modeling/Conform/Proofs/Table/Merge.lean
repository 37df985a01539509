import Conform.Proofs.Table
import Conform.Schema.Basic

/-!
# Tables laid over one another

Where no key occurs twice, a table is known by the order of its keys and by what
is found under each.  A merge says both of its result: the keys of the first
table come first, and the second table decides wherever it has an entry.  From
these two laws it follows that such tables are a monoid, and that writing a table
a second time changes nothing.
-/
namespace Conform.Table
variable {α : Type} {a b c : Table α}

/-- Tables without repeated keys are equal if they have the same keys in the same order and
the same value under each. -/
theorem eq_of_get?_eq (ha : a.keys.Nodup) (hkeys : a.keys = b.keys)
    (h : ∀ key, a.get? key = b.get? key) : a = b := by
  induction a generalizing b with
  | nil => exact (List.map_eq_nil_iff.mp hkeys.symm).symm
  | cons e rest ih =>
    cases b with
    | nil => cases hkeys
    | cons e' rest' =>
      obtain ⟨key, value⟩ := e
      obtain ⟨key', value'⟩ := e'
      obtain ⟨rfl, htail⟩ : key = key' ∧ keys rest = keys rest' := List.cons.inj hkeys
      obtain ⟨hnot, hrest⟩ := List.nodup_cons.mp ha
      obtain rfl : value = value' := by simpa [get?_cons] using h key
      rw [ih hrest htail]
      intro other
      by_cases hother : key = other
      · -- The head of both tables hides this key, so neither rest has it.
        subst hother
        rw [get?_eq_none_iff.mpr hnot, get?_eq_none_iff.mpr (htail ▸ hnot)]
      · simpa [get?_cons, hother] using h other

theorem eraseDups_keys {names : List String} (h : names.Nodup) : names.eraseDups = names := by
  induction names with
  | nil => rfl
  | cons name rest ih =>
    obtain ⟨hnot, hrest⟩ := List.nodup_cons.mp h
    have hfilter : rest.filter (fun other => !other == name) = rest := by
      apply List.filter_eq_self.mpr
      intro other hother
      have hne : other ≠ name := fun e => hnot (e ▸ hother)
      simpa using hne
    rw [List.eraseDups_cons, hfilter, ih hrest]

/-- The keys of the first table, then the new ones of the second. -/
theorem keys_merge_of_nodup (a : Table α) (hb : b.keys.Nodup) :
    (a.merge b).keys = a.keys ++ b.keys.filter (· ∉ a.keys) := by
  rw [keys_merge, eraseDups_keys (hb.filter _)]

/-- The second table decides wherever it has an entry. -/
theorem get?_merge_of_nodup (a : Table α) (hb : b.keys.Nodup) (key : String) :
    (a.merge b).get? key = (b.get? key).or (a.get? key) := by
  rw [get?_merge, get?_reverse hb]

theorem merge_assoc (ha : a.keys.Nodup) (hb : b.keys.Nodup) (hc : c.keys.Nodup) :
    (a.merge b).merge c = a.merge (b.merge c) := by
  have hbc : (b.merge c).keys.Nodup := nodup_keys_merge hb
  apply eq_of_get?_eq (nodup_keys_merge (nodup_keys_merge ha))
  · have hnew : c.keys.filter (· ∉ (a.merge b).keys) =
        (c.keys.filter (· ∉ b.keys)).filter (· ∉ a.keys) := by
      rw [keys_merge_of_nodup a hb, List.filter_filter]
      apply List.filter_congr
      intro key _
      by_cases hkey : key ∈ a.keys <;> simp [hkey]
    rw [keys_merge_of_nodup _ hc, keys_merge_of_nodup _ hbc, keys_merge_of_nodup _ hc, hnew,
      keys_merge_of_nodup _ hb, List.filter_append, List.append_assoc]
  · intro key
    rw [get?_merge_of_nodup _ hc, get?_merge_of_nodup _ hb, get?_merge_of_nodup _ hbc,
      get?_merge_of_nodup _ hc, Option.or_assoc]

theorem nil_merge (ha : a.keys.Nodup) : merge [] a = a := merge_of_nodup ha

theorem merge_self (ha : a.keys.Nodup) : a.merge a = a := by
  apply eq_of_get?_eq (nodup_keys_merge ha)
  · have hnone : a.keys.filter (· ∉ a.keys) = [] := by
      rw [List.filter_eq_nil_iff]
      simp
    rw [keys_merge_of_nodup a ha, hnone, List.append_nil]
  · intro key
    rw [get?_merge_of_nodup a ha, Option.or_self]

/-- Tables without repeated keys are a monoid under merging, with their order: in a merge the
keys of the first table come first and the second table decides, the empty table is neutral,
and merging the same table again changes nothing. -/
theorem merge_ordered_monoid (a b c : Table α) (ha : a.keys.Nodup) (hb : b.keys.Nodup)
    (hc : c.keys.Nodup) :
    (a.merge b).keys.Nodup ∧
    (a.merge b).merge c = a.merge (b.merge c) ∧
    (merge [] a = a ∧ a.merge [] = a) ∧
    (a.merge a = a ∧ (a.merge b).merge b = a.merge b) ∧
    (∀ key, (a.merge b).get? key = (b.get? key).or (a.get? key)) ∧
    (a.merge b).keys = a.keys ++ b.keys.filter (· ∉ a.keys) := by
  have htwice : (a.merge b).merge b = a.merge b := by
    rw [merge_assoc ha hb hb, merge_self hb]
  exact ⟨nodup_keys_merge ha, merge_assoc ha hb hc, ⟨nil_merge ha, merge_nil a⟩,
    ⟨merge_self ha, htwice⟩, get?_merge_of_nodup a hb, keys_merge_of_nodup a hb⟩

/-- Three tables of properties.  The third one writes a new key first, which is the last one in
the merge, and then replaces an entry of each of the others in its place. -/
theorem merge_ordered_monoid_properties :
    let a : Table Node := [("x", .tag "string"), ("y", .tag "null")]
    let b : Table Node := [("z", .tag "array"), ("y", .tag "number")]
    let c : Table Node := [("w", .tag "object"), ("z", .tag "boolean"), ("x", .tag "integer")]
    a.keys.Nodup ∧ b.keys.Nodup ∧ c.keys.Nodup ∧
    a.merge (b.merge c) = [("x", .tag "integer"), ("y", .tag "number"), ("z", .tag "boolean"),
      ("w", .tag "object")] ∧
    (a.merge b).merge b = a.merge b := by
  intro a b c
  have ha : a.keys.Nodup := by decide
  have hb : b.keys.Nodup := by decide
  have hc : c.keys.Nodup := by decide
  obtain ⟨-, hassoc, -, ⟨-, htwice⟩, -, -⟩ := merge_ordered_monoid a b c ha hb hc
  exact ⟨ha, hb, hc, hassoc.symm.trans rfl, htwice⟩

end Conform.Table
