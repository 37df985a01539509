import Conform.Proofs.Extension.Walk
import Conform.Proofs.Json.Alignment
import Conform.Proofs.Schema.Keywords

/-!
# Distinct keys

No table of a schema has a key twice, be it declared or added by a rule, if the
schema was read from a value in which no object has one.
-/
namespace Conform

/-- No table that is declared or can be added anywhere in a schema has a key twice. -/
def Node.DistinctKeys (n : Node) : Prop :=
  ∀ s, n.Contains (.spec s) → s.properties.entries.keys.Nodup ∧
    ∀ b ∈ s.conditions, ∀ extra, b.Adds extra → (Table.keys extra).Nodup

theorem Node.DistinctKeys.of_holds {n child : Node} (h : n.DistinctKeys) (hc : n.Holds child) :
    child.DistinctKeys :=
  fun s hs => h s (.head hc hs)

/-- No object in the value has a key twice: it is itself up to the order of its keys. -/
def Json.Distinct (v : Json) : Prop := v.Reordered v

namespace Json
section
variable {xs : List Json} {ms : Table Json}

@[simp] theorem distinct_null : null.Distinct := Reordered.null

@[simp] theorem distinct_bool (b : Bool) : (bool b).Distinct := Reordered.bool b

@[simp] theorem distinct_number (n : Number) : (number n).Distinct := Reordered.number n

@[simp] theorem distinct_string (text : String) : (string text).Distinct := Reordered.string text

@[simp] theorem distinct_array : (array xs).Distinct ↔ ∀ x ∈ xs, x.Distinct := by
  constructor
  · rintro (_ | _ | _ | _ | ⟨-, h⟩ | _) x hx
    obtain ⟨k, hk⟩ := List.mem_iff_getElem?.mp hx
    exact h k x x hk hk
  · intro h
    refine Reordered.array rfl fun k x y hx hy => ?_
    obtain rfl : x = y := Option.some.inj (hx.symm.trans hy)
    exact h x (List.mem_of_getElem? hx)

@[simp] theorem distinct_object :
    (object ms).Distinct ↔ ms.keys.Nodup ∧ ∀ e ∈ ms, e.2.Distinct := by
  constructor
  · rintro (_ | _ | _ | _ | _ | ⟨hdistinct, -, h⟩)
    refine ⟨hdistinct, fun e he => ?_⟩
    have hv := (Table.get?_eq_some_iff hdistinct).mpr he
    exact h e.1 e.2 e.2 hv hv
  · rintro ⟨hdistinct, h⟩
    exact Reordered.object_self hdistinct h

end
end Json

namespace Json.Distinct

theorem item {xs : List Json} (h : (array xs).Distinct) {x : Json} (hx : x ∈ xs) : x.Distinct :=
  distinct_array.mp h x hx

section
variable {ms : Table Json} {key : String}

theorem keys (h : (object ms).Distinct) : ms.keys.Nodup := (distinct_object.mp h).1

theorem member (h : (object ms).Distinct) {v : Json} (hv : ms.get? key = some v) :
    v.Distinct :=
  (distinct_object.mp h).2 _ (Table.mem_of_get? hv)

/-- What is read at a key is read from a value of the same kind, if anything is there. -/
theorem elim_cases {β : Type} (h : (object ms).Distinct) (key : String) (d : β) (f : Json → β) :
    (ms.get? key).elim d f = d ∨ ∃ v, v.Distinct ∧ (ms.get? key).elim d f = f v := by
  cases hv : ms.get? key with
  | none => exact .inl rfl
  | some v => exact .inr ⟨v, h.member hv, rfl⟩

end
end Json.Distinct

/-- The node was read from a value without repeated keys. -/
def Node.ReadDistinct (n : Node) : Prop := ∃ v : Json, v.Distinct ∧ n = Node.ofJson v

/-- The table was read from an object without repeated keys. -/
def Table.ReadDistinct (t : Table Node) : Prop :=
  ∃ ms : Table Json, (Json.object ms).Distinct ∧ t = tableOf ms

/-- The rule was read from an object without repeated keys. -/
def Rule.ReadDistinct (r : Rule (Table Node)) : Prop :=
  ∃ ms : Table Json, (Json.object ms).Distinct ∧ ruleOf? (.object ms) = some r

theorem Table.ReadDistinct.nodup {t : Table Node} (h : t.ReadDistinct) : t.keys.Nodup := by
  obtain ⟨ms, hms, rfl⟩ := h
  rw [tableOf_eq, keys_mapValues]
  exact hms.keys

theorem Table.ReadDistinct.of_mem {t : Table Node} {e : String × Node} (h : t.ReadDistinct)
    (he : e ∈ t) : e.2.ReadDistinct := by
  obtain ⟨ms, hms, rfl⟩ := h
  rw [tableOf_eq] at he
  obtain ⟨e', he', rfl⟩ := List.mem_map.mp he
  exact ⟨e'.2, hms.member ((get?_eq_some_iff hms.keys).mpr he'), rfl⟩

section
variable {ms : Table Json} {v : Json}

theorem Json.Distinct.ruleOf? (hv : v.Distinct) :
    ∀ r, Conform.ruleOf? v = some r → r.ReadDistinct := by
  intro r h
  cases v with
  | object ms => exact ⟨ms, hv, h⟩
  | null | bool | number | string | array => cases h

theorem Json.Distinct.ruleIn? (h : (object ms).Distinct) (keyword : String) :
    ∀ r, Conform.ruleIn? keyword ms = some r → r.ReadDistinct := by
  rw [ruleIn?_eq]
  rcases h.elim_cases keyword none Conform.ruleOf? with hread | ⟨v, hv, hread⟩
  · simp [hread]
  · rw [hread]
    exact hv.ruleOf?

/-- The rules that a rule leads to were read in the same way. -/
theorem Rule.ReadDistinct.leadsTo {r r' : Rule (Table Node)} (h : r.ReadDistinct)
    (hr : r.LeadsTo r') : r'.ReadDistinct := by
  induction hr with
  | self => exact h
  | elseIf hnext _ ih | otherwise hnext _ ih =>
    obtain ⟨ms, hms, hr⟩ := h
    cases hr
    exact ih (hms.ruleIn? _ _ hnext)

theorem Rule.ReadDistinct.added {r : Rule (Table Node)} (h : r.ReadDistinct) :
    ∀ t, r.added = some t → Table.ReadDistinct t := by
  obtain ⟨ms, hms, hr⟩ := h
  cases hr
  intro t ht
  change addedIn? ms = some t at ht
  rw [addedIn?_eq] at ht
  rcases hms.elim_cases "addProperties" none addedAt? with hread | ⟨v, hv, hread⟩
  · simp [hread] at ht
  rw [hread] at ht
  cases v with
  | object inner =>
    cases ht
    exact ⟨inner, hv, rfl⟩
  | null | bool | number | string | array => cases ht

theorem Json.Distinct.rulesAt? (hv : v.Distinct) :
    ∀ rules, Conform.rulesAt? v = some rules → ∀ r ∈ rules, r.ReadDistinct := by
  intro rules h
  have hsingle (h : (Conform.ruleOf? v).map (fun rule => [rule]) = some rules) :
      ∀ r ∈ rules, r.ReadDistinct := by
    obtain ⟨r, hr, rfl⟩ := Option.map_eq_some_iff.mp h
    simpa using hv.ruleOf? r hr
  cases v with
  | array vs =>
    cases h
    rw [rulesOf_eq]
    intro r hr
    obtain ⟨w, hw, hr⟩ := List.mem_filterMap.mp hr
    exact (hv.item hw).ruleOf? r hr
  | null | bool | number | string | object => exact hsingle h

/-- What a block adds. -/
theorem Json.Distinct.blockOf? (hv : v.Distinct) {b : Block (Table Node)}
    (hb : Conform.blockOf? v = some b) {t : Table Node} (ht : b.Adds t) : t.ReadDistinct := by
  cases v with
  | object ms =>
    simp only [Conform.blockOf?, Block.assemble?, Option.bind_eq_bind,
      Option.bind_eq_some_iff] at hb
    obtain ⟨field, -, rules, hrules, hb⟩ := hb
    cases hb
    obtain ⟨rule, hrule, r, hr, hadded⟩ := ht
    have hread : ∀ rules, rulesIn? ms = some rules → ∀ r ∈ rules, r.ReadDistinct := by
      rw [rulesIn?_eq]
      rcases hv.elim_cases "conditions" none Conform.rulesAt? with hread | ⟨v, hv, hread⟩
      · simp [hread]
      · rw [hread]
        exact hv.rulesAt?
    exact ((hread rules hrules rule hrule).leadsTo hr).added t hadded
  | null | bool | number | string | array => cases hb

theorem Json.Distinct.blocksAt (hv : v.Distinct) :
    ∀ b ∈ Conform.blocksAt v, ∀ t, b.Adds t → Table.ReadDistinct t := by
  intro b hb t ht
  have hsingle (hb : b ∈ (Conform.blockOf? v).toList) : t.ReadDistinct :=
    hv.blockOf? (Option.mem_toList.mp hb) ht
  cases v with
  | array vs =>
    change b ∈ blocksOf vs at hb
    rw [blocksOf_eq] at hb
    obtain ⟨w, hw, hb⟩ := List.mem_filterMap.mp hb
    exact (hv.item hw).blockOf? hb ht
  | null | bool | number | string | object => exact hsingle hb

theorem Json.Distinct.membersOf {vs : List Json} (h : (array vs).Distinct) :
    ∀ a, .alternative a ∈ Conform.membersOf vs → (Node.spec a).ReadDistinct := by
  intro a ha
  rw [membersOf_eq] at ha
  obtain ⟨w, hw, heq⟩ := List.mem_map.mp ha
  cases w with
  | object ms =>
    cases heq
    exact ⟨.object ms, h.item hw, rfl⟩
  | null | bool | number | string | array => cases heq

/-- The members of the type were read from a list without repeated keys, if there are any. -/
theorem Json.Distinct.typeMembers (h : (object ms).Distinct) :
    (Spec.ofMembers ms).type.members = [] ∨
      ∃ vs, (array vs).Distinct ∧ (Spec.ofMembers ms).type.members = Conform.membersOf vs := by
  have htype (t : TypeRef) (ht : typeIn ms = some t) :
      t.members = [] ∨ ∃ vs, (array vs).Distinct ∧ t.members = Conform.membersOf vs := by
    rw [typeIn_eq] at ht
    rcases h.elim_cases "type" none (fun v => some (TypeRef.ofJson v)) with
      hread | ⟨v, hv, hread⟩
    · simp [hread] at ht
    rw [hread] at ht
    cases v with
    | array vs =>
      cases ht
      exact .inr ⟨vs, hv, rfl⟩
    | null | bool | number | string | object =>
      cases ht
      exact .inl rfl
  have henum (t : TypeRef) (ht : enumIn ms = some t) :
      t.members = [] ∨ ∃ vs, (array vs).Distinct ∧ t.members = Conform.membersOf vs := by
    rw [enumIn_eq] at ht
    rcases h.elim_cases "enum" none TypeRef.ofEnum? with hread | ⟨v, hv, hread⟩
    · simp [hread] at ht
    rw [hread] at ht
    cases v with
    | array vs =>
      cases ht
      exact .inr ⟨vs, hv, rfl⟩
    | null | bool | number | string | object => cases ht
  have hor : (Spec.ofMembers ms).type = ((typeIn ms).or (enumIn ms)).getD .undeclared := rfl
  rw [hor]
  cases ht : typeIn ms with
  | some t => exact htype t ht
  | none =>
    cases he : enumIn ms with
    | some t => exact henum t he
    | none => exact .inl rfl

theorem Json.Distinct.typeOf (h : (object ms).Distinct) :
    ∀ a, .alternative a ∈ (Spec.ofMembers ms).type.members → (Node.spec a).ReadDistinct := by
  rcases h.typeMembers with hnone | ⟨vs, hvs, hread⟩
  · simp [hnone]
  · rw [hread]
    exact hvs.membersOf

theorem Json.Distinct.properties (h : (object ms).Distinct) :
    ∀ t, (Spec.ofMembers ms).properties = .declared t → Table.ReadDistinct t := by
  intro t ht
  change propertiesIn ms = .declared t at ht
  rw [propertiesIn_eq] at ht
  rcases h.elim_cases "properties" .undeclared Properties.ofJson with hread | ⟨v, hv, hread⟩
  · simp [hread] at ht
  rw [hread] at ht
  cases v with
  | object inner =>
    cases ht
    exact ⟨inner, hv, rfl⟩
  | null | bool | number | string | array => cases ht

theorem Json.Distinct.items (h : (object ms).Distinct) :
    ∀ node ∈ (Spec.ofMembers ms).items.nodes, node.ReadDistinct := by
  intro node hn
  change node ∈ (itemsIn ms).nodes at hn
  rw [itemsIn_eq] at hn
  rcases h.elim_cases "items" .unconstrained Items.ofJson with hread | ⟨v, hv, hread⟩
  · simp [hread, Items.nodes] at hn
  rw [hread] at hn
  cases v with
  | object inner =>
    cases List.mem_singleton.mp hn
    exact ⟨.object inner, hv, rfl⟩
  | array vs =>
    change node ∈ nodesOf vs at hn
    rw [nodesOf_eq] at hn
    obtain ⟨w, hw, rfl⟩ := List.mem_map.mp hn
    exact ⟨w, hv.item hw, rfl⟩
  | string name =>
    cases List.mem_singleton.mp hn
    exact ⟨.string name, hv, rfl⟩
  | null | bool | number => cases hn

theorem Json.Distinct.conditions (h : (object ms).Distinct) :
    ∀ b ∈ (Spec.ofMembers ms).conditions, ∀ t, b.Adds t → Table.ReadDistinct t := by
  change ∀ b ∈ conditionsIn ms, _
  rw [conditionsIn_eq]
  rcases h.elim_cases "if" [] Conform.blocksAt with hread | ⟨v, hv, hread⟩
  · simp [hread]
  · rw [hread]
    exact hv.blocksAt

end

/-- What a node holds was read in the same way. -/
theorem Node.ReadDistinct.of_holds {n child : Node} (h : n.ReadDistinct) (hc : n.Holds child) :
    child.ReadDistinct := by
  obtain ⟨v, hv, rfl⟩ := h
  cases v with
  | object ms =>
    change (Node.spec (.ofMembers ms)).Holds child at hc
    cases hc with
    | property hp hn => exact (hv.properties _ hp).of_mem hn
    | item hn => exact hv.items _ hn
    | alternative ha => exact hv.typeOf _ ha
    | added hb ht hn => exact (hv.conditions _ hb _ ht).of_mem hn
  | array vs =>
    cases hc with
    | alternative ha => exact hv.membersOf _ ha
  | string name =>
    cases hc with
    | alternative ha => cases ha
  | null | bool | number =>
    cases hc with
    | property hp => cases hp
    | item hn => cases hn
    | alternative ha => cases ha
    | added hb => cases hb

/-- A schema that is read from a value without repeated keys has none. -/
theorem Node.distinctKeys_ofJson {v : Json} (hv : v.Distinct) : (Node.ofJson v).DistinctKeys := by
  have hread (n : Node) (h : (Node.ofJson v).Contains n) : n.ReadDistinct := by
    induction h with
    | refl => exact ⟨v, hv, rfl⟩
    | tail _ hstep ih => exact ih.of_holds hstep
  intro s hs
  obtain ⟨w, hw, heq⟩ := hread (.spec s) hs
  cases w with
  | object ms =>
    obtain rfl : s = .ofMembers ms := Node.spec.inj heq
    constructor
    · cases hp : (Spec.ofMembers ms).properties with
      | declared table => exact (hw.properties table hp).nodup
      | undeclared | malformed => exact List.nodup_nil
    · exact fun b hb extra hadds => (hw.conditions b hb extra hadds).nodup
  | null | bool | number =>
    cases heq
    exact ⟨List.nodup_nil, by simp [Spec.empty]⟩
  | string | array => cases heq

end Conform
