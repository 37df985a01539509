import Conform.Pattern.Meaning
import Conform.Proofs.Check.Coverage
import Conform.Proofs.Check.Listing

/-!
# Defective bounds on a size

The bounds on a size are judged before the size is compared with them, so a
defective one is an issue about the schema for every size.  Three other things
are judged earlier still: the fields of blocks, the properties, and the pattern of
a text.  Only the last can end in an issue about the input, and it does so just
if nothing before it is reported and the pattern does not match.
-/
namespace Conform

/-- The tag of the values that the measure is taken of. -/
def Measure.tag : Measure → TypeTag
  | length => .string
  | items => .array

/-- A bound on the size is not a number, or the lower one is not positive. -/
inductive Limits.DefectiveSize (l : Limits) (m : Measure) : Prop where
  | max {raw : Json} (h : m.max l = some raw) (hraw : raw.number? = none)
  | min {raw : Json} (h : m.min l = some raw) (hraw : raw.number? = none)
  | vacuous {n : Number} (h : m.min l = some (.number n)) (hn : n.compare (.integer 0) ≠ .gt)

/-- The value is a text, and the pattern can be read and does not match it. -/
inductive Limits.Refuses (matcher? : String → Option (String → Bool)) (l : Limits) :
    Json → Prop where
  | text {source text : String} {accepts : String → Bool} (h : l.pattern = some source)
    (hs : matcher? source = some accepts) (ht : accepts text = false) :
    Refuses matcher? l (.string text)

/-- Nothing is reported before the pattern, and the pattern does not match. -/
structure Spec.RefusedFirst (matcher? : String → Option (String → Bool)) (s : Spec) (v : Json) :
    Prop where
  fields : (Node.spec s).fieldIssues v Path.root = []
  properties : ∀ raw, (s.applied v).properties ≠ .malformed raw
  pattern : s.limits.Refuses matcher? v

/-- The issue is about the schema, and one of those that are raised. -/
def Issue.OfSchema (i : Issue) : Prop := i.domain = .schema ∧ i.code ∈ i.domain.raised

/-- The issues of the bounds themselves, whatever the size. -/
def defectIssues (here : Path) (about : Annotations) (m : Measure) (l : Limits) : List Issue :=
  malformedBoundIssues here about m.maxCode (m.max l) ++
    (malformedBoundIssues here about m.minCode (m.min l) ++
      vacuousIssues here about m ((m.min l).bind Json.number?))

section
variable {here : Path} {about : Annotations} {m : Measure} {l : Limits}

theorem malformedBoundIssues_ofSchema {code : IssueCode} (hcode : code ∈ Domain.schema.raised)
    (bound : Option Json) : ∀ i ∈ malformedBoundIssues here about code bound, i.OfSchema := by
  intro i hi
  unfold malformedBoundIssues at hi
  split at hi
  · cases hi
  · cases hi
  · rw [List.mem_singleton.mp hi]
    exact ⟨rfl, hcode⟩

theorem vacuousIssues_ofSchema (bound : Option Number) :
    ∀ i ∈ vacuousIssues here about m bound, i.OfSchema := by
  intro i hi
  unfold vacuousIssues at hi
  split at hi
  · cases hi
  · split at hi
    · cases hi
    · have hcode : m.vacuousCode ∈ Domain.schema.raised := by cases m <;> decide
      rw [List.mem_singleton.mp hi]
      exact ⟨rfl, hcode⟩

theorem defectIssues_ofSchema : ∀ i ∈ defectIssues here about m l, i.OfSchema := by
  intro i hi
  rw [defectIssues, List.mem_append, List.mem_append] at hi
  rcases hi with hi | hi | hi
  · exact malformedBoundIssues_ofSchema (by cases m <;> decide) _ i hi
  · exact malformedBoundIssues_ofSchema (by cases m <;> decide) _ i hi
  · exact vacuousIssues_ofSchema _ i hi

theorem malformedBoundIssues_ne_nil {code : IssueCode} {raw : Json} (h : raw.number? = none) :
    malformedBoundIssues here about code (some raw) ≠ [] := by
  cases raw with
  | number n => cases h
  | null | bool | string | array | object => exact List.cons_ne_nil _ _

theorem Limits.DefectiveSize.defectIssues_ne_nil (h : l.DefectiveSize m) :
    defectIssues here about m l ≠ [] := by
  unfold defectIssues
  cases h with
  | max h hraw =>
    rw [h]
    exact List.append_ne_nil_of_left_ne_nil (malformedBoundIssues_ne_nil hraw) _
  | min h hraw =>
    rw [h]
    refine List.append_ne_nil_of_right_ne_nil _ ?_
    exact List.append_ne_nil_of_left_ne_nil (malformedBoundIssues_ne_nil hraw) _
  | @vacuous n h hn =>
    have hissue : vacuousIssues here about m (some n) ≠ [] := by
      rw [vacuousIssues, if_neg hn]
      exact List.cons_ne_nil _ _
    rw [h]
    exact List.append_ne_nil_of_right_ne_nil _ (List.append_ne_nil_of_right_ne_nil _ hissue)

/-- Whatever the size, the first issue is one about the schema. -/
theorem Limits.DefectiveSize.sizeIssues_eq (here : Path) (about : Annotations)
    (h : l.DefectiveSize m) (size : Nat) :
    ∃ i rest, sizeIssues here about m l size = i :: rest ∧ i.OfSchema := by
  have hne : defectIssues here about m l ≠ [] := h.defectIssues_ne_nil
  obtain ⟨i, rest, hi⟩ := List.exists_cons_of_ne_nil hne
  have hschema : i.OfSchema := defectIssues_ofSchema i (by rw [hi]; exact List.mem_cons_self)
  have hsize : ∃ kept, sizeIssues here about m l size = defectIssues here about m l ++ kept := by
    simp only [sizeIssues, defectIssues, List.append_assoc]
    exact ⟨_, rfl⟩
  obtain ⟨kept, hsize⟩ := hsize
  exact ⟨i, rest ++ kept, by rw [hsize, hi, List.cons_append], hschema⟩

end

section
variable {matcher? : String → Option (String → Bool)} {s : Spec} {m : Measure} {v : Json}

/-- A list begins with an issue: that of a pattern that refuses the value if there
is such a pattern, and else one about the schema. -/
def RefusalOrDefectFirst (refused : Prop) (issues : List Issue) : Prop :=
  ∃ i rest, issues = i :: rest ∧
    ((i.OfSchema ∧ ¬ refused) ∨ (i.domain = .data ∧ i.code = .pattern ∧ refused))

theorem RefusalOrDefectFirst.append {refused : Prop} {issues : List Issue}
    (h : RefusalOrDefectFirst refused issues) (more : List Issue) :
    RefusalOrDefectFirst refused (issues ++ more) := by
  obtain ⟨i, rest, rfl, hi⟩ := h
  exact ⟨i, rest ++ more, rfl, hi⟩

theorem RefusalOrDefectFirst.ofSchema {refused : Prop} {i : Issue} {rest : List Issue}
    (hi : i.OfSchema) (h : ¬ refused) : RefusalOrDefectFirst refused (i :: rest) :=
  ⟨i, rest, rfl, .inl ⟨hi, h⟩⟩

theorem Limits.refuses_string_iff {l : Limits} {source text : String} {accepts : String → Bool}
    (h : l.pattern = some source) (hs : matcher? source = some accepts) :
    l.Refuses matcher? (.string text) ↔ accepts text = false := by
  constructor
  · rintro ⟨hsource, haccepts, ht⟩
    cases h.symm.trans hsource
    cases hs.symm.trans haccepts
    exact ht
  · exact .text h hs

/-- A pattern raises no issue, or its issue comes first. -/
theorem patternIssues_first (here : Path) (about : Annotations) (l : Limits) (text : String) :
    (patternIssues here about matcher? l.pattern text = [] ∧
      ¬ l.Refuses matcher? (.string text)) ∨
    RefusalOrDefectFirst (l.Refuses matcher? (.string text))
      (patternIssues here about matcher? l.pattern text) := by
  unfold patternIssues
  cases hp : l.pattern with
  | none =>
    refine .inl ⟨rfl, ?_⟩
    rintro ⟨hsource, -, -⟩
    cases hp.symm.trans hsource
  | some source =>
    dsimp only
    cases hs : matcher? source with
    | none =>
      have hcode : IssueCode.pattern ∈ Domain.schema.raised := by decide
      refine .inr (.ofSchema ⟨rfl, hcode⟩ ?_)
      rintro ⟨hsource, haccepts, -⟩
      cases hp.symm.trans hsource
      cases hs.symm.trans haccepts
    | some accepts =>
      rw [Limits.refuses_string_iff hp hs]
      dsimp only
      cases accepts text with
      | false => exact .inr ⟨_, _, rfl, .inr ⟨rfl, rfl, rfl⟩⟩
      | true => exact .inl ⟨rfl, by simp⟩

/-- A text is matched before its length is judged; an array has no pattern. -/
theorem Limits.DefectiveSize.contentIssues_first (here : Path) (h : s.limits.DefectiveSize m)
    (hv : m.tag.admits v = true) :
    RefusalOrDefectFirst (s.limits.Refuses matcher? v) (contentIssues matcher? s v here) := by
  cases m with
  | items =>
    cases v with
    | array xs =>
      obtain ⟨i, rest, hi, hschema⟩ := h.sizeIssues_eq here s.annotations xs.length
      rw [contentIssues, hi]
      exact .ofSchema hschema (by rintro ⟨⟩)
    | null | bool | number | string | object => cases hv
  | length =>
    cases v with
    | string text =>
      obtain ⟨i, rest, hi, hschema⟩ := h.sizeIssues_eq here s.annotations text.length
      rw [contentIssues]
      rcases patternIssues_first here s.annotations s.limits text with ⟨hnone, hkept⟩ | hfirst
      · rw [hnone, hi]
        exact .ofSchema hschema hkept
      · exact hfirst.append _
    | null | bool | number | array | object => cases hv

/-- The issues before those of the parts of a value. -/
def Spec.issuesBeforeParts (matcher? : String → Option (String → Bool)) (s : Spec) (v : Json) :
    List Issue :=
  (Node.spec s).fieldIssues v Path.root ++
    (propertiesIssues Path.root s.annotations (s.applied v).properties ++
      contentIssues matcher? s v Path.root)

/-- The extension has the issues of its own properties and the content of the
specification that it comes from. -/
theorem Spec.extension_issues (matcher? : String → Option (String → Bool)) (s : Spec)
    (v root : Json) (here : Path) : ∃ e : Spec,
      (Node.spec s).extended root = .spec e ∧ e.type = s.type ∧
      propertiesIssues here e.annotations e.properties =
        propertiesIssues here s.annotations (s.applied root).properties ∧
      contentIssues matcher? e v here = contentIssues matcher? s v here := by
  refine ⟨_, Node.extended_spec root s, s.applied_type root, ?_, ?_⟩
  · rw [← s.applied_annotations root]
    cases (s.applied root).properties <;> rfl
  · cases v <;> simp only [contentIssues, Spec.applied_limits, Spec.applied_annotations]

/-- A value of the declared type is checked for these issues before anything else. -/
theorem check_eq_issuesBeforeParts_bind {tag : TypeTag} (p : Policy)
    (htype : s.type = .tag tag.name) (hv : tag.admits v = true) :
    ∃ rest : Except Issue Unit,
      check p (.spec s) v =
        (p.outcome (s.issuesBeforeParts p.matcher? v) () >>= fun _ => rest) := by
  obtain ⟨e, he, htype', hproperties, hcontent⟩ :=
    s.extension_issues p.matcher? v v Path.root
  refine ⟨forM (e.parts v) (Part.check p Path.root) >>= fun _ => checkClosed p e v Path.root, ?_⟩
  rw [check, extend, Node.extend_eq_outcome, he, Policy.outcome_bind_eq, checkNode_spec,
    checkSpec_of_admits false (htype'.trans htype) hv, checkProperties_eq_outcome,
    checkContent_eq_outcome, hproperties, hcontent, Spec.issuesBeforeParts,
    Policy.outcome_append, Policy.outcome_append]
  simp only [bind_assoc]

theorem Limits.DefectiveSize.issuesBeforeParts_first (h : s.limits.DefectiveSize m)
    (hv : m.tag.admits v = true) :
    RefusalOrDefectFirst (s.RefusedFirst matcher? v) (s.issuesBeforeParts matcher? v) := by
  unfold Spec.issuesBeforeParts
  cases hf : (Node.spec s).fieldIssues v Path.root with
  | cons i rest =>
    have hmem : i ∈ (Node.spec s).fieldIssues v Path.root := by rw [hf]; exact List.mem_cons_self
    obtain ⟨hdomain, hcode⟩ := Node.code_of_mem_fieldIssues hmem
    have hraised : IssueCode.invalidPath ∈ Domain.schema.raised := by decide
    refine .ofSchema ⟨hdomain, by rw [hdomain, hcode]; exact hraised⟩ fun hrefused => ?_
    cases hf.symm.trans hrefused.fields
  | nil =>
    have hcontent : RefusalOrDefectFirst (s.limits.Refuses matcher? v)
        (contentIssues matcher? s v Path.root) :=
      h.contentIssues_first Path.root hv
    have hkept (hp : ∀ raw, (s.applied v).properties ≠ .malformed raw) :
        s.limits.Refuses matcher? v ↔ s.RefusedFirst matcher? v :=
      ⟨fun hrefuses => ⟨hf, hp, hrefuses⟩, fun hrefused => hrefused.pattern⟩
    cases hp : (s.applied v).properties with
    | malformed raw =>
      have hraised : IssueCode.properties ∈ Domain.schema.raised := by decide
      exact .ofSchema ⟨rfl, hraised⟩ fun hrefused => hrefused.properties raw hp
    | undeclared | declared =>
      rw [← hkept (by rw [hp]; rintro raw ⟨⟩)]
      exact hcontent

/-- Validation ends with the first of these issues. -/
theorem Limits.DefectiveSize.validateWith_eq (h : s.limits.DefectiveSize m)
    (matcher? : String → Option (String → Bool)) (htype : s.type = .tag m.tag.name)
    (hv : m.tag.admits v = true) :
    ∃ r, validateWith matcher? Catalog.builtin (.spec s) v = .error r ∧
      ((r.domain = .schema ∧ ¬ s.RefusedFirst matcher? v) ∨
        (r.domain = .data ∧ r.code = .pattern ∧ s.RefusedFirst matcher? v)) := by
  obtain ⟨rest, hcheck⟩ := check_eq_issuesBeforeParts_bind (Catalog.builtin.policy matcher?)
    htype hv
  have hfirst : RefusalOrDefectFirst _ (s.issuesBeforeParts matcher? v) :=
    h.issuesBeforeParts_first hv
  obtain ⟨i, issues, hissues, hi⟩ := hfirst
  have hraised : i.code ∈ i.domain.raised := by
    rcases hi with ⟨hschema, -⟩ | ⟨hdomain, hcode, -⟩
    · exact hschema.2
    · rw [hdomain, hcode]
      decide
  have herror : check (Catalog.builtin.policy matcher?) (.spec s) v = .error i := by
    change check _ _ _ = (Policy.outcome _ (s.issuesBeforeParts matcher? v) () >>= _) at hcheck
    rw [hcheck, hissues, Policy.outcome_cons_of_reports
      (Catalog.builtin_covers i.domain i.code hraised)]
    rfl
  refine ⟨Catalog.builtin.report i, validateWith_eq_error_iff.mpr ⟨i, herror, rfl⟩, ?_⟩
  rcases hi with ⟨hschema, hkept⟩ | hrefused
  · exact .inl ⟨hschema.1, hkept⟩
  · exact .inr hrefused

/-- A value of a type whose size has a defective bound is never accepted.  An issue
about the schema is reported just if the value is not refused first, as an array
or a text without a pattern never is; and if it is, the pattern is reported. -/
theorem defective_bound_reported_iff (matcher? : String → Option (String → Bool)) (s : Spec)
    (m : Measure) (v : Json) (htype : s.type = .tag m.tag.name) (hv : m.tag.admits v = true)
    (h : s.limits.DefectiveSize m) :
    ((∃ r, validateWith matcher? Catalog.builtin (.spec s) v = .error r ∧ r.domain = .schema) ↔
      ¬ s.RefusedFirst matcher? v) ∧
    (s.RefusedFirst matcher? v → ∃ r, validateWith matcher? Catalog.builtin (.spec s) v =
      .error r ∧ r.domain = .data ∧ r.code = .pattern) ∧
    (m = .items ∨ s.limits.pattern = none → ¬ s.RefusedFirst matcher? v) := by
  obtain ⟨r, hr, hcases⟩ := h.validateWith_eq matcher? htype hv
  refine ⟨⟨?_, fun hkept => ?_⟩, fun hrefused => ?_, ?_⟩
  · rintro ⟨r', hr', hschema⟩
    cases hr.symm.trans hr'
    rcases hcases with ⟨-, hkept⟩ | ⟨hdata, -, -⟩
    · exact hkept
    · cases hschema.symm.trans hdata
  · rcases hcases with ⟨hschema, -⟩ | ⟨-, -, hrefused⟩
    · exact ⟨r, hr, hschema⟩
    · exact absurd hrefused hkept
  · rcases hcases with ⟨-, hkept⟩ | ⟨hdata, hcode, -⟩
    · exact absurd hrefused hkept
    · exact ⟨r, hr, hdata, hcode⟩
  · rintro hnone ⟨-, -, ⟨hsource, -, -⟩⟩
    rcases hnone with rfl | hnone
    · cases hv
    · cases hnone.symm.trans hsource

end

/-- The texts with an `a`, and a lower bound on their length that is not positive. -/
def patternBeforeLength : Spec :=
  { Spec.ofTag "string" with
    limits := { pattern := some "a", minLength := some (.number (.integer 0)) } }

theorem patternBeforeLength_defective : patternBeforeLength.limits.DefectiveSize .length :=
  .vacuous rfl (by decide +kernel)

/-- The bound is reported for a text with an `a`, and the pattern for one without. -/
theorem patternBeforeLength_reports :
    (∃ r, validateWith Pattern.matcher? Catalog.builtin (.spec patternBeforeLength)
      (.string "a") = .error r ∧ r.domain = .schema) ∧
    ∃ r, validateWith Pattern.matcher? Catalog.builtin (.spec patternBeforeLength)
      (.string "b") = .error r ∧ r.domain = .data ∧ r.code = .pattern := by
  have hreports (text : String) := defective_bound_reported_iff Pattern.matcher?
    patternBeforeLength .length (.string text) rfl rfl patternBeforeLength_defective
  obtain ⟨accepts, hs⟩ : ∃ accepts, Pattern.matcher? "a" = some accepts := by
    exact Option.isSome_iff_exists.mp (by cbv)
  have hmatch (text : String) : (Pattern.matcher? "a").map (fun f => f text) =
      some (accepts text) := by
    rw [hs]
    rfl
  have ha : accepts "a" = true := Option.some.inj ((hmatch "a").symm.trans (by cbv))
  have hb : accepts "b" = false := Option.some.inj ((hmatch "b").symm.trans (by cbv))
  refine ⟨(hreports "a").1.mpr ?_, (hreports "b").2.1 ?_⟩
  · rintro ⟨-, -, hrefuses⟩
    rw [Limits.refuses_string_iff rfl hs, ha] at hrefuses
    cases hrefuses
  · refine ⟨?_, by rintro raw ⟨⟩, .text rfl hs hb⟩
    rw [Node.fieldIssues_spec]
    rfl

/-- For a text without an `a` the pattern is reported, and not the bound. -/
theorem patternBeforeLength_hides_bound :
    patternBeforeLength.type = .tag "string" ∧
    patternBeforeLength.limits.minLength = some (.number (.integer 0)) ∧
    ∃ r, validateWith Pattern.matcher? Catalog.builtin (.spec patternBeforeLength)
      (.string "b") = .error r ∧ r.domain = .data := by
  have hcheck : check (Catalog.builtin.policy Pattern.matcher?) (.spec patternBeforeLength)
      (.string "b") = .error (dataIssue .pattern Path.root {} [("pattern", "a")]) := by
    cbv
  exact ⟨rfl, rfl, _, validateWith_eq_error_iff.mpr ⟨_, hcheck, rfl⟩, rfl⟩

end Conform
