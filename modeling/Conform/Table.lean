/-! # Ordered tables

A table is a list of keyed entries in the order in which their keys were first
written.  Writing a key again replaces its value and keeps its place, so the
order that a reader sees is the order of first mention.
-/
namespace Conform

/-- Entries in order of first insertion. -/
abbrev Table (α : Type) := List (String × α)

namespace Table
variable {α β : Type}

/-- The value at a key, taken from its first entry. -/
def get? (t : Table α) (key : String) : Option α := List.lookup key t

def contains (t : Table α) (key : String) : Bool := (t.get? key).isSome

def keys (t : Table α) : List String := t.map Prod.fst

/-- Write one entry: in place if the key is present, at the end otherwise. -/
def insert : Table α → String → α → Table α
  | [], key, value => [(key, value)]
  | entry :: rest, key, value =>
    if entry.1 = key then (key, value) :: rest else entry :: insert rest key value

/-- Write all entries of another table, the later writer winning. -/
def merge (t extra : Table α) : Table α :=
  extra.foldl (fun table entry => insert table entry.1 entry.2) t

/-- The table that results from writing a list of entries in turn. -/
def ofEntries (entries : List (String × α)) : Table α := merge [] entries

def erase (t : Table α) (key : String) : Table α := t.filter fun entry => entry.1 ≠ key

def mapValues (f : α → β) (t : Table α) : Table β := t.map fun entry => (entry.1, f entry.2)

@[simp] theorem get?_nil (key : String) : get? ([] : Table α) key = none := rfl

@[simp] theorem merge_nil (t : Table α) : merge t [] = t := rfl

theorem merge_cons (t : Table α) (entry : String × α) (extra : Table α) :
    merge t (entry :: extra) = merge (insert t entry.1 entry.2) extra := rfl

theorem get?_cons (entry : String × α) (t : Table α) (key : String) :
    get? (entry :: t) key = if entry.1 = key then some entry.2 else get? t key := by
  unfold get?
  rw [List.lookup_cons]
  by_cases h : entry.1 = key
  · simp [h]
  · have h' : (key == entry.1) = false := by simpa using fun e => h e.symm
    simp [h, h']

theorem mem_of_get? {t : Table α} {key : String} {value : α} (h : get? t key = some value) :
    (key, value) ∈ t := by
  induction t with
  | nil => cases h
  | cons entry rest ih =>
    rw [get?_cons] at h
    split at h
    · rename_i hkey
      cases h
      rw [← hkey]
      exact List.mem_cons_self ..
    · exact List.mem_cons_of_mem _ (ih h)

theorem get?_eq_none_iff {t : Table α} {key : String} : get? t key = none ↔ key ∉ keys t := by
  induction t with
  | nil => simp [keys]
  | cons entry rest ih =>
    rw [get?_cons]
    by_cases h : entry.1 = key
    · simp [keys, h]
    · have h' : ¬ key = entry.1 := fun e => h e.symm
      simp only [keys] at ih
      simp [keys, h, h', ih]

theorem get?_insert_self (t : Table α) (key : String) (value : α) :
    get? (insert t key value) key = some value := by
  induction t with
  | nil => simp [insert, get?_cons]
  | cons entry rest ih =>
    unfold insert
    split <;> simp_all [get?_cons]

theorem get?_insert_of_ne (t : Table α) {key other : String} (value : α) (h : key ≠ other) :
    get? (insert t key value) other = get? t other := by
  induction t with
  | nil => simp [insert, get?_cons, h]
  | cons entry rest ih =>
    unfold insert
    split
    · simp_all [get?_cons]
    · simp [get?_cons, ih]

/-- The keys keep their order, and a new key goes last. -/
theorem keys_insert (t : Table α) (key : String) (value : α) :
    keys (insert t key value) = if key ∈ keys t then keys t else keys t ++ [key] := by
  induction t with
  | nil => rfl
  | cons entry rest ih =>
    unfold insert
    by_cases h : entry.1 = key
    · simp [keys, h]
    · have h' : ¬ key = entry.1 := fun e => h e.symm
      rw [if_neg h]
      simp only [keys, List.map_cons, List.mem_cons, h', false_or] at ih ⊢
      rw [ih]
      by_cases hk : key ∈ List.map Prod.fst rest <;> simp [hk]

end Table
end Conform
