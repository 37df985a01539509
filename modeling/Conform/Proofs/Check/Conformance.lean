import Conform.Proofs.Check.Rules

/-!
# Conformance

What it means for a value, present or absent, to conform to a node, without the
order in which a check looks at its parts.  A specification constrains a present
value by its enumeration, or by its tag together with whatever it declares for
values of that tag.
-/
namespace Conform

/-- A size is within those bounds that are declared as numbers. -/
structure Limits.AdmitsSize (l : Limits) (m : Measure) (size : Nat) : Prop where
  max : ∀ b, m.max l = some (.number b) → (Number.integer size).compare b ≠ .gt
  min : ∀ b, m.min l = some (.number b) → (Number.integer size).compare b ≠ .lt

/-- A number is within the ranges that are declared. -/
structure Limits.AdmitsNumber (l : Limits) (n : Number) : Prop where
  minimum : ∀ b, l.minimum = some b → n.compare b ≠ .lt
  maximum : ∀ b, l.maximum = some b → n.compare b ≠ .gt
  exclusiveMinimum : ∀ b, l.exclusiveMinimum = some b → n.compare b = .gt
  exclusiveMaximum : ∀ b, l.exclusiveMaximum = some b → n.compare b = .lt

/-- A text matches the pattern and is neither too short nor too long. -/
structure Limits.AdmitsText (matcher? : String → Option (String → Bool)) (l : Limits)
    (text : String) : Prop where
  pattern : ∀ source, l.pattern = some source →
    ∃ accepts, matcher? source = some accepts ∧ accepts text = true
  length : l.AdmitsSize .length text.length

/-- The value has the tag that is the type of the specification. -/
def Spec.HasTag (s : Spec) (v : Json) : Prop :=
  ∃ name tag, s.type = .tag name ∧ TypeTag.parse? name = some tag ∧ tag.admits v = true

/-- A value, or its absence, conforms to a node. -/
inductive Conforms (matcher? : String → Option (String → Bool)) :
    Node → Option Json → Prop where
  | absentTag (name : String) : Conforms matcher? (.tag name) none
  | tag {name : String} {tag : TypeTag} {v : Json} (ht : TypeTag.parse? name = some tag)
    (hv : tag.admits v = true) : Conforms matcher? (.tag name) (some v)
  | literal {members : List Member} {value v : Json} (h : .literal value ∈ members)
    (hv : value.equal v = true) : Conforms matcher? (.enum members) (some v)
  | alternative {members : List Member} {a : Spec} {input : Option Json}
    (h : .alternative a ∈ members) (ha : Conforms matcher? (.spec a) input) :
    Conforms matcher? (.enum members) input
  | absent {s : Spec} (h : s.required = true → s.annotations.default ≠ none) :
    Conforms matcher? (.spec s) none
  | enumerated {s : Spec} {members : List Member} {v : Json} (h : s.type = .enum members)
    (hv : Conforms matcher? (.enum members) (some v)) : Conforms matcher? (.spec s) (some v)
  | nullable {s : Spec} {name : String} (h : s.type = .tag name) (hn : s.nullable = true) :
    Conforms matcher? (.spec s) (some .null)
  | null {s : Spec} (h : s.HasTag .null) : Conforms matcher? (.spec s) (some .null)
  | bool {s : Spec} {value : Bool} (h : s.HasTag (.bool value)) :
    Conforms matcher? (.spec s) (some (.bool value))
  | number {s : Spec} {n : Number} (h : s.HasTag (.number n)) (hn : s.limits.AdmitsNumber n) :
    Conforms matcher? (.spec s) (some (.number n))
  | string {s : Spec} {text : String} (h : s.HasTag (.string text))
    (ht : s.limits.AdmitsText matcher? text) : Conforms matcher? (.spec s) (some (.string text))
  | array {s : Spec} {xs : List Json} (h : s.HasTag (.array xs))
    (hsize : s.limits.AdmitsSize .items xs.length)
    (hitems : ∀ k node x, s.items.nodeAt? k = some node → xs[k]? = some x →
      Conforms matcher? node (some x)) : Conforms matcher? (.spec s) (some (.array xs))
  | object {s : Spec} {ms : Table Json} (h : s.HasTag (.object ms))
    (hproperties : ∀ table key node, s.properties = .declared table → (key, node) ∈ table →
      Conforms matcher? node (ms.get? key))
    (hkeys : ∀ key ∈ ms.keys, s.allowsKey key = true) :
    Conforms matcher? (.spec s) (some (.object ms))

section
variable {matcher? : String → Option (String → Bool)} {s : Spec} {name : String}
  {members : List Member} {input : Option Json} {v : Json}

theorem hasLiteral_iff : hasLiteral members input = true ↔
    ∃ value v, input = some v ∧ .literal value ∈ members ∧ value.equal v = true := by
  cases input with
  | none => simp [hasLiteral]
  | some v =>
    simp only [hasLiteral, List.any_eq_true, Option.some.injEq]
    constructor
    · rintro ⟨member, hm, h⟩
      cases member with
      | literal value => exact ⟨value, v, rfl, hm, h⟩
      | alternative | nested => cases h
    · rintro ⟨value, _, rfl, hm, h⟩
      exact ⟨.literal value, hm, h⟩

theorem conforms_tag_iff : Conforms matcher? (.tag name) (some v) ↔
    ∃ tag, TypeTag.parse? name = some tag ∧ tag.admits v = true := by
  constructor
  · rintro (_ | ⟨ht, hv⟩)
    exact ⟨_, ht, hv⟩
  · rintro ⟨tag, ht, hv⟩
    exact .tag ht hv

theorem conforms_enum_iff : Conforms matcher? (.enum members) input ↔
    hasLiteral members input = true ∨
      ∃ a, .alternative a ∈ members ∧ Conforms matcher? (.spec a) input := by
  constructor
  · intro h
    cases h with
    | literal hm hv => exact .inl (hasLiteral_iff.mpr ⟨_, _, rfl, hm, hv⟩)
    | alternative hm ha => exact .inr ⟨_, hm, ha⟩
  · rintro (h | ⟨a, hm, ha⟩)
    · obtain ⟨value, v, rfl, hm, hv⟩ := hasLiteral_iff.mp h
      exact .literal hm hv
    · exact .alternative hm ha

theorem conforms_absent_iff : Conforms matcher? (.spec s) none ↔
    (s.required = true → s.annotations.default ≠ none) := by
  constructor
  · rintro ⟨⟩
    assumption
  · exact .absent

theorem conforms_enumerated_iff (h : s.type = .enum members) :
    Conforms matcher? (.spec s) (some v) ↔ Conforms matcher? (.enum members) (some v) := by
  constructor
  · intro hc
    cases hc with
    | enumerated h' hv =>
      rw [h] at h'
      cases h'
      exact hv
    | nullable h' => cases h.symm.trans h'
    | null h' | bool h' | number h' | string h' | array h' | object h' =>
      obtain ⟨_, _, h', _⟩ := h'
      cases h.symm.trans h'
  · exact .enumerated h

/-- A value that conforms to a specification with a tag has the tag, unless it is
a null that is admitted beside it. -/
theorem Conforms.hasTag (h : Conforms matcher? (.spec s) (some v)) (htype : s.type = .tag name) :
    (s.nullable = true ∧ v = .null) ∨ s.HasTag v := by
  cases h with
  | enumerated h => cases htype.symm.trans h
  | nullable _ hn => exact .inl ⟨hn, rfl⟩
  | null h | bool h | number h | string h | array h | object h => exact .inr h

theorem Spec.HasTag.not_enum (h : s.HasTag v) : s.type ≠ .enum members := by
  obtain ⟨name, tag, htype, _⟩ := h
  rw [htype]
  exact TypeRef.noConfusion

theorem conforms_number_iff {n : Number} (h : s.HasTag (.number n)) :
    Conforms matcher? (.spec s) (some (.number n)) ↔ s.limits.AdmitsNumber n := by
  constructor
  · intro hc
    cases hc with
    | enumerated ht => exact absurd ht h.not_enum
    | number _ hn => exact hn
  · exact .number h

theorem conforms_string_iff {text : String} (h : s.HasTag (.string text)) :
    Conforms matcher? (.spec s) (some (.string text)) ↔ s.limits.AdmitsText matcher? text := by
  constructor
  · intro hc
    cases hc with
    | enumerated ht => exact absurd ht h.not_enum
    | string _ ht => exact ht
  · exact .string h

theorem conforms_array_iff {xs : List Json} (h : s.HasTag (.array xs)) :
    Conforms matcher? (.spec s) (some (.array xs)) ↔
      s.limits.AdmitsSize .items xs.length ∧
        ∀ k node x, s.items.nodeAt? k = some node → xs[k]? = some x →
          Conforms matcher? node (some x) := by
  constructor
  · intro hc
    cases hc with
    | enumerated ht => exact absurd ht h.not_enum
    | array _ hsize hitems => exact ⟨hsize, hitems⟩
  · rintro ⟨hsize, hitems⟩
    exact .array h hsize hitems

theorem conforms_object_iff {ms : Table Json} (h : s.HasTag (.object ms)) :
    Conforms matcher? (.spec s) (some (.object ms)) ↔
      (∀ table key node, s.properties = .declared table → (key, node) ∈ table →
        Conforms matcher? node (ms.get? key)) ∧
      ∀ key ∈ ms.keys, s.allowsKey key = true := by
  constructor
  · intro hc
    cases hc with
    | enumerated ht => exact absurd ht h.not_enum
    | object _ hproperties hkeys => exact ⟨hproperties, hkeys⟩
  · rintro ⟨hproperties, hkeys⟩
    exact .object h hproperties hkeys

end
end Conform
