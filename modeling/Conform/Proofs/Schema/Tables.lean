import Conform.Proofs.Schema.Distinct

/-!
# The tables of a schema

A specification has the table of its declared properties and the tables that the
rules of its blocks add, on every branch of a rule.  The parts of a node are the
entries of these tables, the nodes for its items, and the alternatives of its
enumeration, those in lists among the members included.  A node is well keyed if
no table of the node or of anything within it has a key twice.
-/
namespace Conform

/-- The specification is an alternative among the members or in a list among them,
at whatever depth. -/
inductive Member.Offers : List Member → Spec → Prop where
  | alternative {members : List Member} {a : Spec} (h : .alternative a ∈ members) :
    Offers members a
  | nested {members inner : List Member} {a : Spec} (h : .nested inner ∈ members)
    (ha : Offers inner a) : Offers members a

theorem Member.not_offers_nil (a : Spec) : ¬ Member.Offers [] a := by
  rintro (h | ⟨h, -⟩) <;> cases h

/-- The table is declared, or a rule of a block adds it. -/
inductive Spec.HasTable (s : Spec) : Table Node → Prop where
  | declared {t : Table Node} (h : s.properties = .declared t) : HasTable s t
  | added {b : Block (Table Node)} {t : Table Node} (h : b ∈ s.conditions) (ha : b.Adds t) :
    HasTable s t

namespace Node

/-- One node is a part of another. -/
inductive HasPart : Node → Node → Prop where
  | entry {s : Spec} {t : Table Node} {e : String × Node} (ht : s.HasTable t) (he : e ∈ t) :
    HasPart (.spec s) e.2
  | item {s : Spec} {m : Node} (h : m ∈ s.items.nodes) : HasPart (.spec s) m
  | alternative {n : Node} {a : Spec} (h : Member.Offers n.members a) : HasPart n (.spec a)

/-- One node is another or within it. -/
def Includes : Node → Node → Prop := Relation.ReflTransGen HasPart

/-- No table of the node or of a node within it has a key twice. -/
def WellKeyed (n : Node) : Prop := ∀ s, n.Includes (.spec s) → ∀ t, s.HasTable t → t.keys.Nodup

theorem WellKeyed.of_includes {n m : Node} (h : n.WellKeyed) (hm : n.Includes m) :
    m.WellKeyed :=
  fun s hs => h s (hm.trans hs)

theorem wellKeyed_iff (n : Node) : n.WellKeyed ↔
    (∀ s, n = .spec s → ∀ t, s.HasTable t → t.keys.Nodup) ∧ ∀ m, n.HasPart m → m.WellKeyed := by
  constructor
  · intro h
    exact ⟨fun s hs => h s (hs ▸ .refl), fun m hm => h.of_includes (.single hm)⟩
  · rintro ⟨hself, hparts⟩ s hs
    rcases Relation.ReflTransGen.cases_head hs with rfl | ⟨m, hm, hs⟩
    · exact hself s rfl
    · exact hparts m hm s hs

end Node

namespace Table
variable {t extra : Table Node} {key : String} {n : Node}

/-- The keys are distinct, and the nodes of the table are well keyed. -/
def WellKeyed (t : Table Node) : Prop := t.keys.Nodup ∧ ∀ e ∈ t, e.2.WellKeyed

theorem wellKeyed_nil : WellKeyed [] := ⟨List.nodup_nil, List.forall_mem_nil _⟩

theorem WellKeyed.insert (ht : WellKeyed t) (hn : n.WellKeyed) :
    WellKeyed (Table.insert t key n) := by
  refine ⟨nodup_keys_insert ht.1, fun e he => ?_⟩
  rcases mem_insert he with rfl | he
  · exact hn
  · exact ht.2 e he

theorem WellKeyed.merge (ht : WellKeyed t) (he : WellKeyed extra) :
    WellKeyed (Table.merge t extra) :=
  ⟨nodup_keys_merge ht.1, fun e hmem => (mem_merge hmem).elim (ht.2 e) (he.2 e)⟩

theorem WellKeyed.mapValues {f : Node → Node} (ht : WellKeyed t)
    (hf : ∀ e ∈ t, (f e.2).WellKeyed) : WellKeyed (Table.mapValues f t) := by
  refine ⟨(keys_mapValues f t).symm ▸ ht.1, fun e he => ?_⟩
  obtain ⟨old, hold, rfl⟩ := List.mem_map.mp he
  exact hf old hold

/-- Where no key occurs twice, what is found for a key is its only entry. -/
theorem filter_key_eq {α : Type} {t : Table α} (h : t.keys.Nodup) (key : String) :
    t.filter (fun e => e.1 = key) = ((t.get? key).map fun v => (key, v)).toList := by
  induction t with
  | nil => rfl
  | cons e rest ih =>
    obtain ⟨name, v⟩ := e
    obtain ⟨hnot, hrest⟩ := List.nodup_cons.mp h
    by_cases hkey : name = key
    · subst hkey
      have hnone : get? rest name = none := get?_eq_none_iff.mpr hnot
      simp [get?_cons, ih hrest, hnone]
    · simp [get?_cons, ih hrest, hkey]

end Table

section
variable {s : Spec}

/-- A node is put together of tables, of nodes for items and of alternatives. -/
theorem Node.wellKeyed_spec_iff : (Node.spec s).WellKeyed ↔
    (∀ t, s.HasTable t → Table.WellKeyed t) ∧ (∀ m ∈ s.items.nodes, m.WellKeyed) ∧
      ∀ a, Member.Offers s.type.members a → (Node.spec a).WellKeyed := by
  rw [Node.wellKeyed_iff]
  constructor
  · rintro ⟨hself, hparts⟩
    exact ⟨fun t ht => ⟨hself s rfl t ht, fun e he => hparts _ (.entry ht he)⟩,
      fun m hm => hparts _ (.item hm), fun a ha => hparts _ (.alternative ha)⟩
  · rintro ⟨htables, hitems, halternatives⟩
    constructor
    · rintro _ ⟨⟩ t ht
      exact (htables t ht).1
    · intro m hm
      cases hm with
      | entry ht he => exact (htables _ ht).2 _ he
      | item h => exact hitems m h
      | alternative h => exact halternatives _ h

/-- The declared properties may be replaced by others that are well keyed. -/
theorem Node.WellKeyed.withProperties (h : (Node.spec s).WellKeyed) {ps : Properties}
    (hps : ∀ t, ps = .declared t → Table.WellKeyed t) :
    (Node.spec { s with properties := ps }).WellKeyed := by
  rw [Node.wellKeyed_spec_iff] at h ⊢
  refine ⟨fun t ht => ?_, h.2⟩
  cases ht with
  | declared ht => exact hps t ht
  | added hb ha => exact h.1 t (.added hb ha)

theorem Node.WellKeyed.entries (h : (Node.spec s).WellKeyed) :
    Table.WellKeyed s.properties.entries := by
  cases hp : s.properties with
  | declared t => exact (Node.wellKeyed_spec_iff.mp h).1 t (.declared hp)
  | undeclared | malformed => exact Table.wellKeyed_nil

theorem Node.WellKeyed.inject {extra : Table Node} (h : (Node.spec s).WellKeyed)
    (he : Table.WellKeyed extra) : (Node.spec (s.inject extra)).WellKeyed := by
  refine h.withProperties fun t ht => ?_
  have hentries := h.entries
  cases hp : s.properties with
  | declared table =>
    rw [hp] at ht hentries
    cases ht
    exact hentries.merge he
  | undeclared | malformed =>
    rw [hp] at ht
    cases ht
    exact he

/-- Without its blocks a specification has fewer tables. -/
theorem Node.WellKeyed.withoutBlocks (h : (Node.spec s).WellKeyed) :
    (Node.spec { s with conditions := [] }).WellKeyed := by
  rw [Node.wellKeyed_spec_iff] at h ⊢
  refine ⟨fun t ht => ?_, h.2⟩
  cases ht with
  | declared ht => exact h.1 t (.declared ht)
  | added hb => cases hb

end

/-! ## What is read -/

theorem Json.Distinct.offers {vs : List Json} (h : (array vs).Distinct) {a : Spec}
    (ha : Member.Offers (Conform.membersOf vs) a) : (Node.spec a).ReadDistinct := by
  generalize hm : Conform.membersOf vs = members at ha
  induction ha generalizing vs with
  | alternative ha => exact h.membersOf _ (hm ▸ ha)
  | nested hn _ ih =>
    rw [← hm, membersOf_eq] at hn
    obtain ⟨w, hw, heq⟩ := List.mem_map.mp hn
    cases w with
    | array inner =>
      cases heq
      exact ih (h.item hw) rfl
    | null | bool | number | string | object => cases heq

/-- The parts of a node were read in the same way. -/
theorem Node.ReadDistinct.of_hasPart {n m : Node} (h : n.ReadDistinct) (hm : n.HasPart m) :
    m.ReadDistinct := by
  cases hm with
  | entry ht he =>
    cases ht with
    | declared ht => exact h.of_holds (.property ht he)
    | added hb ha => exact h.of_holds (.added hb ha he)
  | item hi => exact h.of_holds (.item hi)
  | @alternative _ a ha =>
    obtain ⟨v, hv, rfl⟩ := h
    cases v with
    | object ms =>
      change Member.Offers (Spec.ofMembers ms).type.members a at ha
      rcases hv.typeMembers with hnone | ⟨vs, hvs, hread⟩
      · rw [hnone] at ha
        exact absurd ha (Member.not_offers_nil a)
      · rw [hread] at ha
        exact hvs.offers ha
    | array vs => exact hv.offers ha
    | null | bool | number | string => exact absurd ha (Member.not_offers_nil a)

theorem Node.ReadDistinct.nodup_keys {s : Spec} (h : (Node.spec s).ReadDistinct) {t : Table Node}
    (ht : s.HasTable t) : t.keys.Nodup := by
  obtain ⟨v, hv, heq⟩ := h
  cases v with
  | object ms =>
    cases heq
    cases ht with
    | declared ht => exact (hv.properties t ht).nodup
    | added hb ha => exact (hv.conditions _ hb t ha).nodup
  | null | bool | number =>
    cases heq
    rcases ht with ht | ⟨hb, -⟩
    · cases ht
    · cases hb
  | string | array => cases heq

/-- A schema that is read from a value without repeated keys is well keyed. -/
theorem Node.wellKeyed_ofJson {v : Json} (hv : v.Distinct) : (Node.ofJson v).WellKeyed := by
  have hread (n : Node) (h : (Node.ofJson v).Includes n) : n.ReadDistinct := by
    induction h with
    | refl => exact ⟨v, hv, rfl⟩
    | tail _ hstep ih => exact ih.of_hasPart hstep
  exact fun s hs t ht => (hread _ hs).nodup_keys ht

theorem Table.wellKeyed_tableOf {ms : Table Json} (h : (Json.object ms).Distinct) :
    Table.WellKeyed (tableOf ms) := by
  refine ⟨ReadDistinct.nodup ⟨ms, h, rfl⟩, fun e he => ?_⟩
  obtain ⟨v, hv, heq⟩ := ReadDistinct.of_mem ⟨ms, h, rfl⟩ he
  exact heq ▸ Node.wellKeyed_ofJson hv

end Conform
