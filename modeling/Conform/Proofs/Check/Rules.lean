import Conform.Check
import Conform.Proofs.Schema.Contents
import Conform.Proofs.Stopping

/-!
# Rules for the parts of a check

For each function of the check one rule says with which issues it can stop:
whatever holds of the issues at its raising points, under the conditions that
lead there, holds of the issue that stops it.  The checks of values are brought
into one form for each declared type.
-/
namespace Conform

/-- What a measure counts in a value. -/
def Measure.size? : Measure → Json → Option Nat
  | length, .string text => some text.length
  | items, .array xs => some xs.length
  | _, _ => none

/-- The bounds of a range with the orders that violate them. -/
def Limits.ranges (l : Limits) : List (IssueCode × Option Number × (Ordering → Bool)) :=
  [(.minimum, l.minimum, (· = .lt)), (.maximum, l.maximum, (· = .gt)),
    (.exclusiveMinimum, l.exclusiveMinimum, (· ≠ .gt)),
    (.exclusiveMaximum, l.exclusiveMaximum, (· ≠ .lt))]

/-- The key is declared, or no table is declared and any key is admitted. -/
def Spec.allowsKey (s : Spec) (key : String) : Bool :=
  match s.properties.table? with
  | some declared => declared.contains key
  | none => s.additionalProperties

section Rules
variable {p : Policy} {Q : Issue → Prop} {here : Path} {about : Annotations}

theorem checkTag_stops {name : String} {v : Json}
    (unknown : TypeTag.parse? name = none → Q (schemaIssue .typeof here about
      [("type", name), ("allowedTypes", TypeTag.listing)]))
    (wrong : ∀ tag, TypeTag.parse? name = some tag → tag.admits v = false →
      Q (dataIssue .typeof here about [("type", name)])) :
    p.StopsWith (checkTag p name v here about) Q := by
  unfold checkTag
  cases hn : TypeTag.parse? name with
  | none => exact (Policy.stopsWith_raise (unknown hn)).bind fun _ _ => Policy.stopsWith_pure _
  | some tag =>
    dsimp only
    split
    · exact Policy.stopsWith_pure _
    · rename_i hv
      have hv' : tag.admits v = false := by simpa using hv
      exact (Policy.stopsWith_raise (wrong tag hn hv')).bind fun _ _ => Policy.stopsWith_pure _

/-- The tag is returned only for a value that has it. -/
theorem checkTag_eq_some {ε : Type} [Complaint ε] {name : String} {tag : TypeTag} {v : Json}
    (h : (checkTag p name v here about : Except ε _) = .ok (some tag)) :
    TypeTag.parse? name = some tag ∧ tag.admits v = true := by
  unfold checkTag at h
  cases hn : TypeTag.parse? name with
  | none =>
    rw [hn] at h
    obtain ⟨_, _, h⟩ := bind_eq_ok_iff.mp h
    cases h
  | some found =>
    rw [hn] at h
    by_cases hv : found.admits v = true
    · simp only [hv, if_true] at h
      cases h
      exact ⟨rfl, hv⟩
    · simp only [hv] at h
      obtain ⟨_, _, h⟩ := bind_eq_ok_iff.mp h
      cases h

theorem checkPattern_stops {pattern : Option String} {text : String}
    (unread : ∀ source, pattern = some source → p.matcher? source = none →
      Q (schemaIssue .pattern here about [("pattern", source)]))
    (refused : ∀ source accepts, pattern = some source → p.matcher? source = some accepts →
      accepts text = false → Q (dataIssue .pattern here about [("pattern", source)])) :
    p.StopsWith (checkPattern p pattern text here about) Q := by
  unfold checkPattern
  cases pattern with
  | none => exact Policy.stopsWith_pure _
  | some source =>
    dsimp only
    cases hs : p.matcher? source with
    | none => exact Policy.stopsWith_raise (unread source rfl hs)
    | some accepts =>
      dsimp only
      split
      · exact Policy.stopsWith_pure _
      · rename_i ht
        exact Policy.stopsWith_raise (refused source accepts rfl hs (by simpa using ht))

theorem readBound_stops {code : IssueCode} {bound : Option Json}
    (h : ∀ raw, bound = some raw → raw.number? = none →
      Q (schemaIssue code here about [("bound", code.name)])) :
    p.StopsWith (readBound p code bound here about) Q := by
  cases bound with
  | none => exact Policy.stopsWith_pure _
  | some raw =>
    cases raw with
    | number n => exact Policy.stopsWith_pure _
    | null | bool | string | array | object =>
      exact (Policy.stopsWith_raise (h _ rfl rfl)).bind fun _ _ => Policy.stopsWith_pure _

/-- A bound is read off only if it is declared as that number. -/
theorem readBound_eq_some {code : IssueCode} {bound : Option Json} {n : Number}
    (h : readBound p code bound here about = .ok (some n)) : bound = some (.number n) := by
  cases bound with
  | none => cases h
  | some raw =>
    cases raw with
    | number n =>
      cases h
      rfl
    | null | bool | string | array | object =>
      obtain ⟨_, _, h⟩ := bind_eq_ok_iff.mp h
      cases h

theorem checkVacuous_stops {m : Measure} {bound : Option Number}
    (h : ∀ n, bound = some n → n.compare (.integer 0) ≠ .gt →
      Q (schemaIssue m.vacuousCode here about [("bound", m.minCode.name)])) :
    p.StopsWith (checkVacuous p m bound here about) Q := by
  unfold checkVacuous
  cases bound with
  | none => exact Policy.stopsWith_pure _
  | some n =>
    dsimp only
    split
    · exact Policy.stopsWith_pure _
    · rename_i hn
      exact Policy.stopsWith_raise (h n rfl hn)

theorem checkBound_stops {code : IssueCode} {violates : Ordering → Bool} {n : Number}
    {bound : Option Number}
    (h : ∀ b, bound = some b → violates (n.compare b) = true →
      Q (dataIssue code here about [(code.name, b.text)])) :
    p.StopsWith (checkBound p code violates n bound here about) Q := by
  unfold checkBound
  cases bound with
  | none => exact Policy.stopsWith_pure _
  | some b =>
    dsimp only
    split
    · rename_i hb
      exact Policy.stopsWith_raise (h b rfl hb)
    · exact Policy.stopsWith_pure _

theorem checkSize_stops {m : Measure} {l : Limits} {size : Nat}
    (maxNotNumber : ∀ raw, m.max l = some raw → raw.number? = none →
      Q (schemaIssue m.maxCode here about [("bound", m.maxCode.name)]))
    (minNotNumber : ∀ raw, m.min l = some raw → raw.number? = none →
      Q (schemaIssue m.minCode here about [("bound", m.minCode.name)]))
    (vacuous : ∀ n, m.min l = some (.number n) → n.compare (.integer 0) ≠ .gt →
      Q (schemaIssue m.vacuousCode here about [("bound", m.minCode.name)]))
    (above : ∀ b, m.max l = some (.number b) → (Number.integer size).compare b = .gt →
      Q (dataIssue m.maxCode here about [(m.maxCode.name, b.text)]))
    (below : ∀ b, m.min l = some (.number b) → (Number.integer size).compare b = .lt →
      Q (dataIssue m.minCode here about [(m.minCode.name, b.text)])) :
    p.StopsWith (checkSize p m l size here about) Q := by
  refine (readBound_stops maxNotNumber).bind fun max hmax => ?_
  refine (readBound_stops minNotNumber).bind fun min hmin => ?_
  refine (checkVacuous_stops ?_).bind fun _ _ => ?_
  · rintro n rfl hn
    exact vacuous n (readBound_eq_some hmin) hn
  · refine (checkBound_stops ?_).bind fun _ _ => checkBound_stops ?_
    · rintro b rfl hb
      exact above b (readBound_eq_some hmax) (by simpa using hb)
    · rintro b rfl hb
      exact below b (readBound_eq_some hmin) (by simpa using hb)

theorem checkRange_stops {l : Limits} {n : Number}
    (h : ∀ code b violates, (code, some b, violates) ∈ l.ranges →
      violates (n.compare b) = true → Q (dataIssue code here about [(code.name, b.text)])) :
    p.StopsWith (checkRange p l n here about) Q := by
  have hbound (code : IssueCode) (bound : Option Number) (violates : Ordering → Bool)
      (hmem : (code, bound, violates) ∈ l.ranges) :
      p.StopsWith (checkBound p code violates n bound here about) Q := by
    apply checkBound_stops
    rintro b rfl hb
    exact h code b violates hmem hb
  refine (hbound _ _ _ (by simp [Limits.ranges])).bind fun _ _ => ?_
  refine (hbound _ _ _ (by simp [Limits.ranges])).bind fun _ _ => ?_
  refine (hbound _ _ _ (by simp [Limits.ranges])).bind fun _ _ => ?_
  exact hbound _ _ _ (by simp [Limits.ranges])

theorem checkKeys_stops {declared : Table Node} {keys : List String}
    (h : ∀ key ∈ keys, declared.contains key = false →
      Q (dataIssue .unexpectedKey (here.child (.key key)) about)) :
    p.StopsWith (checkKeys p declared here about keys) Q := by
  induction keys with
  | nil => exact Policy.stopsWith_pure _
  | cons key rest ih =>
    rw [List.forall_mem_cons] at h
    have hrest := ih h.2
    unfold checkKeys
    cases hk : declared.contains key with
    | true => exact hrest
    | false => exact (Policy.stopsWith_raise (h.1 hk)).bind fun _ _ => hrest

theorem checkUnexpected_stops {s : Spec} {ms : Table Json}
    (h : ∀ key ∈ ms.keys, s.allowsKey key = false →
      Q (dataIssue .unexpectedKey (here.child (.key key)) about)) :
    p.StopsWith (checkUnexpected p s.additionalProperties s.properties ms here about) Q := by
  unfold Spec.allowsKey at h
  unfold checkUnexpected
  cases ht : s.properties.table? with
  | some declared =>
    rw [ht] at h
    exact checkKeys_stops h
  | none =>
    rw [ht] at h
    cases ha : s.additionalProperties with
    | true => exact Policy.stopsWith_pure _
    | false => exact checkKeys_stops fun key hk _ => h key hk ha

theorem checkPresence_some {ε : Type} [Complaint ε] (required : Bool) (v : Json) :
    (checkPresence p required (some v) here about : Except ε Unit) = .ok () := by
  simp [checkPresence, pure, Except.pure]

theorem checkPresence_stops {required : Bool} {input : Option Json}
    (h : required = true → input = none → about.default = none →
      Q (dataIssue .required here about)) :
    p.StopsWith (checkPresence p required input here about) Q := by
  unfold checkPresence
  split
  · rename_i hc
    simp only [Bool.and_eq_true, Option.isNone_iff_eq_none] at hc
    exact Policy.stopsWith_raise (h hc.1.1 hc.1.2 hc.2)
  · exact Policy.stopsWith_pure _

theorem checkProperties_stops {properties : Properties}
    (h : ∀ raw, properties = .malformed raw → Q (schemaIssue .properties here about)) :
    p.StopsWith (checkProperties p properties here about) Q := by
  cases properties with
  | malformed raw => exact Policy.stopsWith_raise (h raw rfl)
  | undeclared | declared => exact Policy.stopsWith_pure _

theorem checkEach_stops {check : Json → Path → Except Issue Unit} {xs : List Json}
    {position : Nat} (h : ∀ k x, xs[k]? = some x →
      p.StopsWith (check x (here.child (.index (position + k)))) Q) :
    p.StopsWith (checkEach check here position xs) Q := by
  induction xs generalizing position with
  | nil => exact Policy.stopsWith_pure _
  | cons x rest ih =>
    refine (h 0 x rfl).bind fun _ _ => ih fun k y hk => ?_
    have hy := h (k + 1) y hk
    rwa [← Nat.add_assoc, Nat.add_right_comm] at hy

theorem checkPositional_stops {nodes : List Node} {xs : List Json} {position : Nat}
    (h : ∀ k node x, nodes[k]? = some node → xs[k]? = some x →
      p.StopsWith (checkNode p node (some x) (here.child (.index (position + k))) false) Q) :
    p.StopsWith (checkPositional p nodes xs here position) Q := by
  induction nodes generalizing xs position with
  | nil => exact Policy.stopsWith_pure _
  | cons node nodes ih =>
    cases xs with
    | nil => exact Policy.stopsWith_pure _
    | cons x xs =>
      rw [checkPositional]
      refine (h 0 node x rfl rfl).bind fun _ _ => ih fun k n y hn hk => ?_
      have hy := h (k + 1) n y hn hk
      rwa [← Nat.add_assoc, Nat.add_right_comm] at hy

theorem checkItems_stops {items : Items} {xs : List Json}
    (h : ∀ k node x, items.nodeAt? k = some node → xs[k]? = some x →
      p.StopsWith (checkNode p node (some x) (here.child (.index k)) false) Q) :
    p.StopsWith (checkItems p items xs here) Q := by
  cases items with
  | unconstrained => exact Policy.stopsWith_pure _
  | each node =>
    apply checkEach_stops
    intro k x hx
    rw [Nat.zero_add]
    exact h k node x rfl hx
  | positional nodes =>
    apply checkPositional_stops
    intro k node x hn hx
    rw [Nat.zero_add]
    exact h k node x hn hx
  | eachTag name =>
    apply checkEach_stops
    intro k x hx
    rw [Nat.zero_add]
    exact h k (.tag name) x rfl hx

theorem checkTable_stops {table : Table Node} {ms : Table Json}
    (h : ∀ key node, (key, node) ∈ table →
      p.StopsWith (checkNode p node (ms.get? key) (here.child (.key key)) false) Q) :
    p.StopsWith (checkTable p table ms here) Q := by
  induction table with
  | nil => exact Policy.stopsWith_pure _
  | cons e rest ih =>
    obtain ⟨key, node⟩ := e
    rw [checkTable]
    refine (h key node (List.mem_cons_self ..)).bind fun _ _ => ih fun k n hn => ?_
    exact h k n (List.mem_cons_of_mem _ hn)

end Rules

section Equations
variable {ε : Type} [Complaint ε]

/-- Check an enumeration, its members being tried in order. -/
def checkEnum (p : Policy) (members : List Member) (input : Option Json) (here : Path)
    (inEnum : Bool) (about : Annotations) : Except ε Unit :=
  checkEnumWith p members input here inEnum about fun _ =>
    tryMembers p members input here about (membersLabel members) 0

/-- Check a value that has the tag of its specification. -/
def checkFacets (p : Policy) (s : Spec) (tag : TypeTag) (v : Json) (here : Path) :
    Except ε Unit :=
  match tag, v with
  | .string, .string text => checkText p s.limits text here s.annotations
  | .array, .array xs => do
    checkSize p .items s.limits xs.length here s.annotations
    checkItems p s.items xs here
  | .object, .object ms => do
    checkDeclared p s.properties ms here
    checkUnexpected p s.additionalProperties s.properties ms here s.annotations
  | tag, .number n => if tag.isNumeric then checkRange p s.limits n here s.annotations else return
  | _, _ => return

variable (p : Policy) {s : Spec} (v : Json) (input : Option Json) (here : Path) (inEnum : Bool)

theorem checkNode_enum (members : List Member) :
    (checkNode p (.enum members) input here inEnum : Except ε Unit) =
      checkEnum p members input here inEnum {} := by
  rw [checkNode]
  rfl

theorem checkNode_spec (s : Spec) :
    (checkNode p (.spec s) input here inEnum : Except ε Unit) =
      checkSpec p s input here inEnum := by
  rw [checkNode]

theorem checkSpec_undeclared (h : s.type = .undeclared) :
    (checkSpec p s input here inEnum : Except ε Unit) = (do
      checkProperties p s.properties here s.annotations
      p.raise (schemaIssue .requireType here s.annotations)) := by
  cases s
  subst h
  rw [checkSpec]

theorem checkSpec_none (h : s.type ≠ .undeclared) :
    (checkSpec p s none here inEnum : Except ε Unit) = (do
      checkProperties p s.properties here s.annotations
      checkPresence p s.required none here s.annotations) := by
  obtain ⟨type, _, _, _, _, _, _, _, _⟩ := s
  cases type with
  | undeclared => exact absurd rfl h
  | tag | enum | malformed =>
    rw [checkSpec]
    exact congrArg _ (funext fun _ => bind_pure _)

theorem checkSpec_enum {members : List Member} (h : s.type = .enum members) :
    (checkSpec p s (some v) here inEnum : Except ε Unit) = (do
      checkProperties p s.properties here s.annotations
      checkEnum p members (some v) here inEnum s.annotations) := by
  cases s
  subst h
  rw [checkSpec]
  simp only [checkPresence_some]
  rfl

theorem checkSpec_malformed {raw : Json} (h : s.type = .malformed raw) :
    (checkSpec p s (some v) here inEnum : Except ε Unit) = (do
      checkProperties p s.properties here s.annotations
      if s.nullable && v.isNull then return
      else p.raise (schemaIssue .typeof here s.annotations
        [("type", raw.display), ("allowedTypes", TypeTag.listing)])) := by
  cases s
  subst h
  rw [checkSpec]
  simp only [checkPresence_some]
  rfl

theorem checkSpec_tag {name : String} (h : s.type = .tag name) :
    (checkSpec p s (some v) here inEnum : Except ε Unit) = (do
      checkProperties p s.properties here s.annotations
      if s.nullable && v.isNull then return
      else
        match ← checkTag p name v here s.annotations with
        | some tag => checkFacets p s tag v here
        | none => return) := by
  cases s
  subst h
  rw [checkSpec]
  simp only [checkPresence_some]
  refine congrArg _ (funext fun _ => ?_)
  change (if _ then _ else _) = _
  split
  · rfl
  · refine congrArg _ (funext fun tag => ?_)
    cases tag with
    | none => rfl
    | some tag => cases tag <;> cases v <;> rfl

end Equations

section Enumerations
variable {p : Policy} {Q : Issue → Prop} {here : Path} {about : Annotations}
  {members : List Member} {input : Option Json}

theorem tryMembers_stops {label : String} {position : Nat}
    (alternative : ∀ k a, members[k]? = some (.alternative a) →
      p.StopsWith (checkSpec p a input (here.child (.index (position + k))) true) fun i =>
        i.domain = .schema → Q i)
    (nested : ∀ inner, .nested inner ∈ members → Q (schemaIssue .nestedEnum here about))
    (noMember : Q (dataIssue .enum here about [("enums", label)])) :
    p.StopsWith (tryMembers p members input here about label position) Q := by
  induction members generalizing position with
  | nil =>
    rw [tryMembers]
    exact Policy.stopsWith_raise noMember
  | cons member rest ih =>
    have hrest : p.StopsWith (tryMembers p rest input here about label (position + 1)) Q := by
      refine ih (fun k a ha => ?_) fun inner hi => nested inner (List.mem_cons_of_mem _ hi)
      have hk := alternative (k + 1) a ha
      rwa [← Nat.add_assoc, Nat.add_right_comm] at hk
    cases member with
    | literal value =>
      rw [tryMembers]
      exact hrest
    | nested inner =>
      rw [tryMembers]
      exact (Policy.stopsWith_raise (nested inner (List.mem_cons_self ..))).bind fun _ _ => hrest
    | alternative a =>
      have ha := alternative 0 a rfl
      rw [Nat.add_zero] at ha
      intro i hi
      rw [tryMembers] at hi
      split at hi
      · cases hi
      · rename_i j hj
        split at hi
        · exact hrest i hi
        · rename_i hdomain
          cases hi
          obtain ⟨hr, hQ⟩ := ha _ hj
          refine ⟨hr, hQ ?_⟩
          cases hd : i.domain with
          | schema => rfl
          | data => exact absurd hd hdomain

theorem checkEnum_stops {inEnum : Bool}
    (inside : inEnum = true → Q (schemaIssue .nestedEnum here about))
    (alternative : ∀ k a, members[k]? = some (.alternative a) →
      p.StopsWith (checkSpec p a input (here.child (.index k)) true) fun i =>
        i.domain = .schema → Q i)
    (nested : ∀ inner, .nested inner ∈ members → Q (schemaIssue .nestedEnum here about))
    (noMember : Q (dataIssue .enum here about [("enums", membersLabel members)])) :
    p.StopsWith (checkEnum p members input here inEnum about) Q := by
  have htry : p.StopsWith
      (if hasLiteral members input then return
        else tryMembers p members input here about (membersLabel members) 0) Q := by
    split
    · exact Policy.stopsWith_pure _
    · apply tryMembers_stops _ nested noMember
      intro k a ha
      rw [Nat.zero_add]
      exact alternative k a ha
  unfold checkEnum checkEnumWith
  cases inEnum with
  | false => exact htry
  | true => exact (Policy.stopsWith_raise (inside rfl)).bind fun _ _ => htry

end Enumerations
end Conform
