import Conform.Table
import Mathlib.Data.List.Nodup
import Mathlib.Data.Option.Basic

/-!
# Entries of tables

An entry of a merged table comes from one of the two.  A table that is built by
writing has no key twice, and of such a table every entry is found by its key.
-/
namespace Conform.Table
variable {α : Type} {t extra : Table α} {key : String} {value : α} {e : String × α}

theorem mem_insert (h : e ∈ insert t key value) : e = (key, value) ∨ e ∈ t := by
  induction t with
  | nil => exact .inl (List.mem_singleton.mp h)
  | cons entry rest ih =>
    unfold insert at h
    split at h
    · rcases List.mem_cons.mp h with h | h
      · exact .inl h
      · exact .inr (List.mem_cons_of_mem _ h)
    · rcases List.mem_cons.mp h with rfl | h
      · exact .inr (List.mem_cons_self ..)
      · exact (ih h).imp_right (List.mem_cons_of_mem _)

theorem mem_merge (h : e ∈ merge t extra) : e ∈ t ∨ e ∈ extra := by
  induction extra generalizing t with
  | nil => exact .inl h
  | cons entry rest ih =>
    rw [merge_cons] at h
    rcases ih h with h | h
    · rcases mem_insert h with rfl | h
      · exact .inr (List.mem_cons_self ..)
      · exact .inl h
    · exact .inr (List.mem_cons_of_mem _ h)

theorem nodup_keys_insert (h : t.keys.Nodup) : (insert t key value).keys.Nodup := by
  rw [keys_insert]
  by_cases hk : key ∈ t.keys
  · simpa [hk] using h
  · simpa [hk, List.nodup_append] using ⟨h, fun other ho e => hk (e ▸ ho)⟩

theorem nodup_keys_merge (h : t.keys.Nodup) : (merge t extra).keys.Nodup := by
  induction extra generalizing t with
  | nil => exact h
  | cons entry rest ih =>
    rw [merge_cons]
    exact ih (nodup_keys_insert h)

theorem mem_keys_iff : key ∈ t.keys ↔ ∃ value, t.get? key = some value := by
  rw [← Option.ne_none_iff_exists', ne_eq, get?_eq_none_iff, not_not]

/-- Where no key occurs twice every entry is found. -/
theorem get?_eq_some_iff (h : t.keys.Nodup) : t.get? key = some value ↔ (key, value) ∈ t := by
  refine ⟨mem_of_get?, fun hmem => ?_⟩
  induction t with
  | nil => simp at hmem
  | cons entry rest ih =>
    obtain ⟨hnot, hrest⟩ := List.nodup_cons.mp h
    rw [get?_cons]
    rcases List.mem_cons.mp hmem with rfl | hmem
    · simp
    · have hne : entry.1 ≠ key := by
        rintro rfl
        exact hnot (List.mem_map.mpr ⟨_, hmem, rfl⟩)
      simp [hne, ih hrest hmem]

theorem get?_insert (t : Table α) (key other : String) (value : α) :
    get? (insert t key value) other = if key = other then some value else get? t other := by
  by_cases h : key = other
  · rw [if_pos h, ← h, get?_insert_self]
  · rw [if_neg h, get?_insert_of_ne t value h]

theorem get?_append (s t : Table α) (key : String) :
    get? (s ++ t) key = (get? s key).or (get? t key) :=
  List.lookup_append

/-- The last entry of a key is the one that is kept. -/
theorem get?_merge (t extra : Table α) (key : String) :
    get? (merge t extra) key = (get? extra.reverse key).or (get? t key) := by
  induction extra generalizing t with
  | nil => rfl
  | cons entry rest ih =>
    rw [merge_cons, ih, get?_insert, List.reverse_cons, get?_append, Option.or_assoc, get?_cons]
    split <;> rfl

theorem get?_reverse (h : t.keys.Nodup) (key : String) : get? t.reverse key = get? t key := by
  have hreverse : keys t.reverse = t.keys.reverse := List.map_reverse
  ext value
  rw [get?_eq_some_iff h, get?_eq_some_iff (by rwa [hreverse, List.nodup_reverse]),
    List.mem_reverse]

/-- Keys that are new go last, in the order in which they are first written. -/
theorem keys_merge (t extra : Table α) :
    keys (merge t extra) = keys t ++ ((keys extra).filter (· ∉ keys t)).eraseDups := by
  induction extra generalizing t with
  | nil => simp [keys]
  | cons entry rest ih =>
    have hkeys : keys (entry :: rest) = entry.1 :: keys rest := rfl
    rw [merge_cons, ih, keys_insert, hkeys]
    by_cases h : entry.1 ∈ keys t
    · simp [h]
    · have hnew : (keys rest).filter (· ∉ keys t ++ [entry.1]) =
          ((keys rest).filter (· ∉ keys t)).filter fun key => !key == entry.1 := by
        rw [List.filter_filter]
        apply List.filter_congr
        intro key _
        by_cases hkey : key = entry.1 <;> simp [hkey]
      rw [if_neg h, hnew, List.filter_cons_of_pos (by simpa using h), List.eraseDups_cons,
        List.append_assoc, List.singleton_append]

theorem keys_foldl_merge (t : Table α) (extras : List (Table α)) :
    keys (extras.foldl merge t) =
      keys t ++ ((extras.flatMap keys).filter (· ∉ keys t)).eraseDups := by
  have hwritten : extras.foldl merge t = merge t extras.flatten := List.foldl_flatten.symm
  have hkeys : keys extras.flatten = extras.flatMap keys := List.map_flatten
  rw [hwritten, keys_merge, hkeys]

/-- Of several tables the last one that has a key decides. -/
theorem get?_foldl_merge (t : Table α) {extras : List (Table α)}
    (h : ∀ extra ∈ extras, extra.keys.Nodup) (key : String) :
    get? (extras.foldl merge t) key =
      (extras.reverse.findSome? fun extra => extra.get? key).or (get? t key) := by
  induction extras generalizing t with
  | nil => rfl
  | cons extra rest ih =>
    rw [List.forall_mem_cons] at h
    rw [List.foldl_cons, ih _ h.2, get?_merge, get?_reverse h.1, List.reverse_cons,
      List.findSome?_append, Option.or_assoc]
    simp

theorem get?_filter (t : Table α) (p : String → Bool) (key : String) :
    get? (t.filter fun e => p e.1) key = if p key then get? t key else none := by
  induction t with
  | nil => simp
  | cons entry rest ih =>
    rw [List.filter_cons, get?_cons]
    by_cases hkey : entry.1 = key
    · subst hkey
      cases hp : p entry.1 <;> simp [ih, hp, get?_cons]
    · cases p entry.1 <;> simp [ih, hkey, get?_cons]

theorem nodup_keys_filter (h : t.keys.Nodup) (p : String × α → Bool) :
    keys (t.filter p) |>.Nodup :=
  h.sublist (List.filter_sublist.map Prod.fst)

theorem get?_erase (t : Table α) (key other : String) :
    get? (erase t key) other = if key = other then none else get? t other := by
  rw [erase, get?_filter t (fun name => name ≠ key)]
  by_cases h : key = other
  · simp [h]
  · have h' : other ≠ key := fun e => h e.symm
    simp [h, h']

theorem insert_of_not_mem {t : Table α} {key : String} (h : key ∉ t.keys) (value : α) :
    insert t key value = t ++ [(key, value)] := by
  induction t with
  | nil => rfl
  | cons entry rest ih =>
    simp only [keys, List.map_cons, List.mem_cons, not_or] at h
    rw [insert, if_neg fun e => h.1 e.symm, ih h.2, List.cons_append]

/-- Entries under new and distinct keys are kept as they are. -/
theorem merge_of_nodup {t extra : Table α} (h : (keys (t ++ extra)).Nodup) :
    merge t extra = t ++ extra := by
  induction extra generalizing t with
  | nil => simp
  | cons entry rest ih =>
    have hkeys : keys (t ++ entry :: rest) = keys t ++ entry.1 :: keys rest := List.map_append
    have hnew : entry.1 ∉ keys t := fun hmem =>
      (List.disjoint_of_nodup_append (hkeys ▸ h)) hmem (List.mem_cons_self ..)
    rw [merge_cons, insert_of_not_mem hnew, ih (by simpa using h)]
    simp

section
variable {β : Type} (f : α → β)

theorem mapValues_cons (entry : String × α) (t : Table α) :
    mapValues f (entry :: t) = (entry.1, f entry.2) :: mapValues f t := rfl

theorem keys_mapValues (t : Table α) : keys (mapValues f t) = keys t := by
  simp [keys, mapValues]

theorem get?_mapValues (t : Table α) (key : String) :
    (mapValues f t).get? key = (t.get? key).map f := by
  induction t with
  | nil => rfl
  | cons entry rest ih =>
    rw [mapValues_cons, get?_cons, get?_cons, ih]
    split <;> rfl

theorem mapValues_insert (t : Table α) (key : String) (value : α) :
    mapValues f (insert t key value) = insert (mapValues f t) key (f value) := by
  induction t with
  | nil => rfl
  | cons entry rest ih =>
    rw [insert, mapValues_cons, insert]
    split
    · rw [mapValues_cons]
    · rw [mapValues_cons, ih]

theorem mapValues_merge (t extra : Table α) :
    mapValues f (merge t extra) = merge (mapValues f t) (mapValues f extra) := by
  induction extra generalizing t with
  | nil => rfl
  | cons entry rest ih =>
    rw [merge_cons, ih, mapValues_insert]
    rfl

end

end Conform.Table
