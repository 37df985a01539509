import Conform.Pattern.Cache
import Conform.Proofs.Table
import Mathlib.Data.Finset.Card
import Mathlib.Data.List.DropRight

/-!
# What a cache keeps

A request is a miss if its pattern is not in the cache when it is asked for.
After any run of requests the cache is determined by the misses: it keeps the
last ones, as many as there is room for, in their order, each with what reading
it gives.  A hit is no miss and so leaves no trace.
-/
namespace Conform

namespace Table
variable {α : Type}

/-- Taking out the first entry leaves the others, if its key does not occur again. -/
theorem erase_cons_self {t : Table α} {key : String} {value : α} (h : key ∉ t.keys) :
    erase ((key, value) :: t) key = t := by
  rw [erase, List.filter_cons_of_neg (by simp), List.filter_eq_self]
  intro entry hentry
  simp only [ne_eq, decide_not, Bool.not_eq_true', decide_eq_false_iff_not]
  rintro rfl
  exact h (List.mem_map.mpr ⟨entry, hentry, rfl⟩)

end Table

/-- The last elements of the last elements. -/
theorem rtake_rtake {α : Type} (xs : List α) (m n : Nat) :
    (xs.rtake m).rtake n = xs.rtake (min m n) := by
  simp only [List.rtake, List.length_drop, List.drop_drop]
  congr 1
  omega

namespace Pattern.Cache
variable {α : Type} (read : String → α)

/-- The cache that keeps the given patterns. -/
def keeping (patterns : List String) : Cache α := ⟨patterns.map fun p => (p, read p), patterns⟩

/-- The patterns of a run that are not in the cache when they are asked for. -/
def misses (c : Cache α) : List String → List String
  | [] => []
  | pattern :: rest =>
    (if (c.get? pattern).isSome then [] else [pattern]) ++
      misses (c.compile read pattern).2 rest

theorem order_keeping (patterns : List String) : (keeping read patterns).order = patterns := rfl

theorem keys_keeping (patterns : List String) :
    (keeping read patterns).entries.keys = patterns := by
  simp [keeping, Table.keys, Function.comp_def]

section
variable {patterns : List String} {pattern : String}

theorem get?_keeping : (keeping read patterns).get? pattern =
    if pattern ∈ patterns then some (read pattern) else none := by
  induction patterns with
  | nil => rfl
  | cons p rest ih =>
    by_cases hp : p = pattern
    · subst hp
      simp [get?, keeping, Table.get?_cons]
    · simp only [get?, keeping, List.map_cons, Table.get?_cons, hp, if_false] at ih ⊢
      simp [ih, Ne.symm hp]

/-- The patterns at the front of the queue go until one place is free. -/
theorem makeRoom_keeping (h : patterns.Nodup) :
    makeRoom (keeping read patterns).entries patterns =
      keeping read (patterns.rtake (capacity - 1)) := by
  induction patterns with
  | nil => rfl
  | cons p rest ih =>
    obtain ⟨hp, hrest⟩ := List.nodup_cons.mp h
    have herase : (keeping read (p :: rest)).entries.erase p = (keeping read rest).entries :=
      Table.erase_cons_self (by rwa [← keys_keeping read rest] at hp)
    rw [makeRoom, herase]
    by_cases hfull : capacity ≤ (p :: rest).length
    · have htake : (p :: rest).rtake (capacity - 1) = rest.rtake (capacity - 1) := by
        simp only [List.rtake, List.length_cons] at hfull ⊢
        have hpos : 0 < capacity := by decide
        rw [show rest.length + 1 - (capacity - 1) = rest.length - (capacity - 1) + 1 by omega,
          List.drop_succ_cons]
      rw [if_pos (by simpa [keeping] using hfull), ih hrest, htake]
    · have htake : (p :: rest).rtake (capacity - 1) = p :: rest := by
        simp only [List.rtake]
        rw [show (p :: rest).length - (capacity - 1) = 0 by omega, List.drop_zero]
      rw [if_neg (by simpa [keeping] using hfull), htake]
      rfl

/-- A request gives what reading the pattern gives.  If the pattern is kept, the
cache stays as it is; otherwise the pattern is added last, and the first ones go
that there is no room for. -/
theorem compile_keeping (h : patterns.Nodup) : (keeping read patterns).compile read pattern =
    (read pattern, if pattern ∈ patterns then keeping read patterns
      else keeping read ((patterns ++ [pattern]).rtake capacity)) := by
  by_cases hp : pattern ∈ patterns
  · simp [compile, get?_keeping, hp]
  · have hroom : pattern ∉ (keeping read (patterns.rtake (capacity - 1))).entries.keys := by
      rw [keys_keeping]
      exact fun hmem => hp (List.mem_of_mem_drop hmem)
    have hlast : (patterns ++ [pattern]).rtake capacity =
        patterns.rtake (capacity - 1) ++ [pattern] := List.rtake_concat_succ ..
    simp only [compile, insert, get?_keeping, hp, if_false]
    rw [order_keeping, makeRoom_keeping read h, Table.insert_of_not_mem hroom, hlast]
    simp [keeping]

end

/-- The cache after a run from the empty one, given what was asked for and what
was missed: the last misses are kept, and whatever was asked for was missed once. -/
structure Kept (asked missed : List String) (c : Cache α) : Prop where
  keeps : c = keeping read (missed.rtake capacity)
  nodup : (missed.rtake capacity).Nodup
  missed : ∀ pattern, pattern ∈ asked ↔ pattern ∈ missed

namespace Kept
variable {read} {asked missed : List String} {c : Cache α}

theorem empty : Kept read [] [] (Cache.empty : Cache α) where
  keeps := by simp [keeping, Cache.empty]
  nodup := by simp
  missed := by simp

/-- One more request. -/
theorem compile (h : Kept read asked missed c) (pattern : String) :
    (c.compile read pattern).1 = read pattern ∧
    Kept read (asked ++ [pattern])
      (missed ++ if (c.get? pattern).isSome then [] else [pattern])
      (c.compile read pattern).2 := by
  rw [h.keeps, compile_keeping read h.nodup, get?_keeping]
  refine ⟨rfl, ?_⟩
  by_cases hp : pattern ∈ missed.rtake capacity
  · have hmissed : pattern ∈ missed := List.mem_of_mem_drop hp
    simp only [hp, if_true, Option.isSome_some, List.append_nil]
    refine ⟨rfl, h.nodup, fun p => ?_⟩
    rw [List.mem_append, List.mem_singleton, h.missed]
    constructor
    · rintro (hm | rfl)
      · exact hm
      · exact hmissed
    · exact .inl
  · have hlast : (missed.rtake capacity ++ [pattern]).rtake capacity =
        (missed ++ [pattern]).rtake capacity := by
      have hconcat (xs : List String) : (xs ++ [pattern]).rtake capacity =
          xs.rtake (capacity - 1) ++ [pattern] := List.rtake_concat_succ ..
      rw [hconcat, hconcat, rtake_rtake]
      rfl
    have hnodup : ((missed ++ [pattern]).rtake capacity).Nodup := by
      rw [← hlast]
      apply (List.drop_sublist _ _).nodup
      rw [List.nodup_append]
      refine ⟨h.nodup, List.nodup_singleton _, ?_⟩
      rintro p hmem _ hsingle rfl
      cases List.mem_singleton.mp hsingle
      exact hp hmem
    simp only [hp, if_false, Option.isSome_none, Bool.false_eq_true]
    refine ⟨by rw [hlast], hnodup, fun p => ?_⟩
    simp only [List.mem_append, h.missed]

/-- A run of requests. -/
theorem compileAll (h : Kept read asked missed c) (requests : List String) :
    (c.compileAll read requests).1 = requests.map read ∧
    Kept read (asked ++ requests) (missed ++ misses read c requests)
      (c.compileAll read requests).2 := by
  induction requests generalizing asked missed c with
  | nil => simpa [Cache.compileAll, misses] using h
  | cons pattern rest ih =>
    obtain ⟨hresult, hkept⟩ := h.compile pattern
    obtain ⟨hresults, hkept⟩ := ih hkept
    rw [List.append_assoc, List.append_assoc] at hkept
    refine ⟨?_, hkept⟩
    simp only [Cache.compileAll, List.map_cons, hresult, hresults]

/-- The cache is full, or keeps all that was ever asked for. -/
theorem size_eq (h : Kept read asked missed c) :
    c.size = min capacity missed.length ∧ c.size = min capacity asked.toFinset.card := by
  have hsize : c.size = min capacity missed.length := by
    rw [h.keeps]
    simp only [size, keeping, List.length_map, List.rtake, List.length_drop]
    omega
  refine ⟨hsize, hsize.trans ?_⟩
  have hasked : asked.toFinset = missed.toFinset := by
    ext pattern
    simp [h.missed]
  rw [hasked]
  by_cases hfew : missed.length ≤ capacity
  · have hall : missed.rtake capacity = missed := by
      rw [List.rtake, Nat.sub_eq_zero_of_le hfew, List.drop_zero]
    have hnodup := h.nodup
    rw [hall] at hnodup
    rw [List.toFinset_card_of_nodup hnodup]
  · have hcard : (missed.rtake capacity).toFinset.card = capacity := by
      rw [List.toFinset_card_of_nodup h.nodup, List.rtake, List.length_drop]
      omega
    have hle : capacity ≤ missed.toFinset.card := by
      rw [← hcard]
      apply Finset.card_le_card
      intro pattern hmem
      rw [List.mem_toFinset] at hmem ⊢
      exact List.mem_of_mem_drop hmem
    omega

end Kept

/-- After any run of requests from the empty cache, and however often patterns
were asked for again: every request was answered with what reading its pattern
gives; the patterns with entries are those of the queue, once each; there are as
many as have been asked for, if there is room; they are the last misses in their
order; and asking for one of them again changes nothing. -/
theorem cache_keeps_last_misses (requests : List String) :
    (empty.compileAll read requests).1 = requests.map read ∧
    let c := (empty.compileAll read requests).2
    (c.entries.keys.Perm c.order ∧ c.entries.keys.Nodup ∧ c.order.Nodup) ∧
    c.size = min capacity requests.toFinset.card ∧
    (c.order = (misses read empty requests).rtake capacity ∧
      c.size = min capacity (misses read empty requests).length) ∧
    ∀ pattern ∈ c.order, c.compile read pattern = (read pattern, c) := by
  obtain ⟨hresults, hkept⟩ := (Kept.empty : Kept read [] [] empty).compileAll requests
  rw [List.nil_append, List.nil_append] at hkept
  refine ⟨hresults, ?_⟩
  intro c
  obtain ⟨hmisses, hasked⟩ := hkept.size_eq
  have hkeeps : c = keeping read ((misses read empty requests).rtake capacity) := hkept.keeps
  have horder : c.order = (misses read empty requests).rtake capacity := by
    rw [hkeeps, order_keeping]
  have hkeys : c.entries.keys = c.order := by
    rw [hkeeps, keys_keeping, order_keeping]
  have hnodup : c.order.Nodup := horder ▸ hkept.nodup
  refine ⟨⟨.of_eq hkeys, hkeys ▸ hnodup, hnodup⟩, hasked, ⟨horder, hmisses⟩, ?_⟩
  intro pattern hpattern
  rw [horder] at hpattern
  rw [hkeeps, compile_keeping read hkept.nodup, if_pos hpattern]

end Pattern.Cache
end Conform
