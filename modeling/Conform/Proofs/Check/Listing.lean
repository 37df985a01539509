import Conform.Proofs.Check.Parts
import Conform.Proofs.Check.SchemaIssues
import Conform.Proofs.Extension.EnumFree
import Conform.Proofs.Outcome

/-!
# The issues of a check as a list

Outside of enumerations a check goes on in the same way whether or not an issue
is reported: a bound that cannot be read is dropped, a value of the wrong type is
not looked into.  So there is one list of issues for a node and an input, and the
check is the outcome of that list under every policy.
-/
namespace Conform

section
variable (here : Path) (about : Annotations)

def tagIssues (name : String) (v : Json) : List Issue :=
  match TypeTag.parse? name with
  | none => [schemaIssue .typeof here about [("type", name), ("allowedTypes", TypeTag.listing)]]
  | some tag => if tag.admits v then [] else [dataIssue .typeof here about [("type", name)]]

def patternIssues (matcher? : String → Option (String → Bool)) (pattern : Option String)
    (text : String) : List Issue :=
  match pattern with
  | none => []
  | some source =>
    match matcher? source with
    | none => [schemaIssue .pattern here about [("pattern", source)]]
    | some accepts =>
      if accepts text then [] else [dataIssue .pattern here about [("pattern", source)]]

/-- A bound that is not a number. -/
def malformedBoundIssues (code : IssueCode) (bound : Option Json) : List Issue :=
  match bound with
  | none | some (.number _) => []
  | some _ => [schemaIssue code here about [("bound", code.name)]]

def vacuousIssues (m : Measure) (bound : Option Number) : List Issue :=
  match bound with
  | none => []
  | some n =>
    if n.compare (.integer 0) = .gt then []
    else [schemaIssue m.vacuousCode here about [("bound", m.minCode.name)]]

def boundIssues (code : IssueCode) (violates : Ordering → Bool) (n : Number)
    (bound : Option Number) : List Issue :=
  match bound with
  | none => []
  | some b =>
    if violates (n.compare b) then [dataIssue code here about [(code.name, b.text)]] else []

/-- Both bounds are read before the size is compared with them. -/
def sizeIssues (m : Measure) (l : Limits) (size : Nat) : List Issue :=
  malformedBoundIssues here about m.maxCode (m.max l) ++
    (malformedBoundIssues here about m.minCode (m.min l) ++
      (vacuousIssues here about m ((m.min l).bind Json.number?) ++
        (boundIssues here about m.maxCode (· = .gt) (.integer size)
            ((m.max l).bind Json.number?) ++
          boundIssues here about m.minCode (· = .lt) (.integer size)
            ((m.min l).bind Json.number?))))

def rangeIssues (l : Limits) (n : Number) : List Issue :=
  l.ranges.flatMap fun range => boundIssues here about range.1 range.2.2 n range.2.1

def propertiesIssues (properties : Properties) : List Issue :=
  match properties with
  | .malformed _ => [schemaIssue .properties here about]
  | _ => []

def presenceIssues (required : Bool) (input : Option Json) : List Issue :=
  if required && input.isNone && about.default.isNone then [dataIssue .required here about] else []

end

/-- The issues of a value before those of its parts. -/
def contentIssues (matcher? : String → Option (String → Bool)) (s : Spec) (v : Json)
    (here : Path) : List Issue :=
  match v with
  | .string text => patternIssues here s.annotations matcher? s.limits.pattern text ++
      sizeIssues here s.annotations .length s.limits text.length
  | .array xs => sizeIssues here s.annotations .items s.limits xs.length
  | .number n => rangeIssues here s.annotations s.limits n
  | _ => []

/-- The keys of an object that are not admitted. -/
def closedIssues (s : Spec) (v : Json) (here : Path) : List Issue :=
  match v with
  | .object ms => ((Table.keys ms).filter fun key => !s.allowsKey key).map fun key =>
      dataIssue .unexpectedKey (here.child (.key key)) s.annotations
  | _ => []

/-- The issues of a specification, given those of the parts of a value;
enumerations are left out. -/
def Spec.issuesWith (matcher? : String → Option (String → Bool)) (s : Spec)
    (input : Option Json) (here : Path) (partIssues : Json → List Issue) : List Issue :=
  propertiesIssues here s.annotations s.properties ++
    match s.type with
    | .undeclared => [schemaIssue .requireType here s.annotations]
    | .enum _ => []
    | .malformed raw =>
      match input with
      | none => presenceIssues here s.annotations s.required none
      | some v =>
        if s.nullable && v.isNull then []
        else [schemaIssue .typeof here s.annotations
          [("type", raw.display), ("allowedTypes", TypeTag.listing)]]
    | .tag name =>
      match input with
      | none => presenceIssues here s.annotations s.required none
      | some v =>
        if s.nullable && v.isNull then []
        else tagIssues here s.annotations name v ++
          if Json.hasType? name v = some true then
            contentIssues matcher? s v here ++ (partIssues v ++ closedIssues s v here)
          else []

/-- The issues of a node and an input, or its absence, in the order of the check. -/
def Node.issues (matcher? : String → Option (String → Bool)) (n : Node) (input : Option Json)
    (here : Path) : List Issue :=
  match n with
  | tag name =>
    match input with
    | none => []
    | some v => tagIssues here {} name v
  | enum _ => []
  | spec s => s.issuesWith matcher? input here fun v => (s.parts v).attach.flatMap fun x =>
      x.1.node.issues matcher? x.1.value (here.child x.1.segment)
termination_by sizeOf n
decreasing_by exact (Spec.holds_of_mem_parts x.2).sizeOf_lt

/-- The issues of the parts of a value. -/
def Spec.partIssues (matcher? : String → Option (String → Bool)) (s : Spec) (here : Path)
    (v : Json) : List Issue :=
  (s.parts v).flatMap fun x => x.node.issues matcher? x.value (here.child x.segment)

theorem Node.issues_spec (matcher? : String → Option (String → Bool)) (s : Spec)
    (input : Option Json) (here : Path) : (Node.spec s).issues matcher? input here =
      s.issuesWith matcher? input here (s.partIssues matcher? here) := by
  rw [issues]
  congr 1
  ext v
  rw [Spec.partIssues, List.flatMap_def, List.flatMap_def, List.attach_map_val (f := fun x : Part =>
    x.node.issues matcher? x.value (here.child x.segment))]

section
variable {p : Policy} {here : Path} {about : Annotations}

theorem checkTag_eq_outcome (name : String) (v : Json) : checkTag p name v here about =
    p.outcome (tagIssues here about name v)
      ((TypeTag.parse? name).filter fun tag => tag.admits v) := by
  unfold checkTag tagIssues
  cases TypeTag.parse? name with
  | none =>
    rw [Policy.raise_eq_outcome]
    exact Policy.outcome_bind (Policy.outcome_nil _).symm
  | some tag =>
    by_cases hv : tag.admits v = true
    · simp [hv, Option.filter, pure, Except.pure]
    · simp only [hv, Option.filter_some, Bool.false_eq_true, if_false, Policy.raise_eq_outcome]
      exact Policy.outcome_bind (Policy.outcome_nil _).symm

theorem checkPattern_eq_outcome (pattern : Option String) (text : String) :
    checkPattern p pattern text here about =
      p.outcome (patternIssues here about p.matcher? pattern text) () := by
  unfold checkPattern patternIssues
  cases pattern with
  | none => rfl
  | some source =>
    dsimp only
    cases p.matcher? source with
    | none => exact Policy.raise_eq_outcome _
    | some accepts =>
      cases ht : accepts text <;> simp [ht, Policy.raise_eq_outcome, pure, Except.pure]

theorem readBound_eq_outcome (code : IssueCode) (bound : Option Json) :
    readBound p code bound here about =
      p.outcome (malformedBoundIssues here about code bound) (bound.bind Json.number?) := by
  cases bound with
  | none => rfl
  | some raw =>
    cases raw with
    | number n => rfl
    | null | bool | string | array | object =>
      unfold readBound malformedBoundIssues
      rw [Policy.raise_eq_outcome]
      exact Policy.outcome_bind (Policy.outcome_nil _).symm

theorem checkVacuous_eq_outcome (m : Measure) (bound : Option Number) :
    checkVacuous p m bound here about = p.outcome (vacuousIssues here about m bound) () := by
  unfold checkVacuous vacuousIssues
  cases bound with
  | none => rfl
  | some n =>
    by_cases hn : n.compare (.integer 0) = .gt
    · simp [hn, pure, Except.pure]
    · simp [hn, Policy.raise_eq_outcome]

theorem checkBound_eq_outcome (code : IssueCode) (violates : Ordering → Bool) (n : Number)
    (bound : Option Number) : checkBound p code violates n bound here about =
      p.outcome (boundIssues here about code violates n bound) () := by
  unfold checkBound boundIssues
  cases bound with
  | none => rfl
  | some b =>
    cases hb : violates (n.compare b) <;> simp [hb, Policy.raise_eq_outcome, pure, Except.pure]

theorem checkSize_eq_outcome (m : Measure) (l : Limits) (size : Nat) :
    checkSize p m l size here about = p.outcome (sizeIssues here about m l size) () := by
  unfold checkSize
  rw [readBound_eq_outcome]
  apply Policy.outcome_bind
  rw [readBound_eq_outcome]
  apply Policy.outcome_bind
  rw [checkVacuous_eq_outcome]
  apply Policy.outcome_bind
  rw [checkBound_eq_outcome]
  apply Policy.outcome_bind
  exact checkBound_eq_outcome _ _ _ _

theorem checkRange_eq_outcome (l : Limits) (n : Number) :
    checkRange p l n here about = p.outcome (rangeIssues here about l n) () := by
  have hrange : checkRange p l n here about = forM l.ranges fun range =>
      checkBound p range.1 range.2.2 n range.2.1 here about := by
    simp only [Limits.ranges, List.forM_cons, List.forM_nil]
    unfold checkRange
    simp
  rw [hrange]
  exact Policy.forM_eq_outcome fun range _ => checkBound_eq_outcome _ _ _ _

theorem checkKeys_eq_outcome (declared : Table Node) (keys : List String) :
    checkKeys p declared here about keys =
      p.outcome ((keys.filter fun key => !declared.contains key).map fun key =>
        dataIssue .unexpectedKey (here.child (.key key)) about) () := by
  induction keys with
  | nil => rfl
  | cons key rest ih =>
    unfold checkKeys
    cases hk : declared.contains key with
    | true => simpa [hk] using ih
    | false =>
      rw [List.filter_cons_of_pos (by simp [hk]), List.map_cons, Policy.raise_eq_outcome]
      exact Policy.outcome_bind ih

theorem checkUnexpected_eq_outcome (s : Spec) (ms : Table Json) :
    checkUnexpected p s.additionalProperties s.properties ms here s.annotations =
      p.outcome (closedIssues s (.object ms) here) () := by
  unfold checkUnexpected closedIssues Spec.allowsKey
  cases s.properties.table? with
  | some declared => exact checkKeys_eq_outcome _ _
  | none =>
    cases s.additionalProperties with
    | true => simp [pure, Except.pure]
    | false => exact checkKeys_eq_outcome _ _

theorem checkProperties_eq_outcome (properties : Properties) :
    checkProperties p properties here about =
      p.outcome (propertiesIssues here about properties) () := by
  cases properties with
  | malformed raw => exact Policy.raise_eq_outcome _
  | undeclared | declared => rfl

theorem checkPresence_eq_outcome (required : Bool) (input : Option Json) :
    checkPresence p required input here about =
      p.outcome (presenceIssues here about required input) () := by
  unfold checkPresence presenceIssues
  split
  · exact Policy.raise_eq_outcome _
  · rfl

theorem checkContent_eq_outcome (s : Spec) (v : Json) :
    checkContent p s v here = p.outcome (contentIssues p.matcher? s v here) () := by
  cases v with
  | string text =>
    unfold checkContent checkText contentIssues
    dsimp only
    rw [checkPattern_eq_outcome]
    exact Policy.outcome_bind (checkSize_eq_outcome _ _ _)
  | array xs => exact checkSize_eq_outcome _ _ _
  | number n => exact checkRange_eq_outcome _ _
  | null | bool | object => rfl

theorem checkClosed_eq_outcome (s : Spec) (v : Json) :
    checkClosed p s v here = p.outcome (closedIssues s v here) () := by
  cases v with
  | object ms => exact checkUnexpected_eq_outcome s ms
  | null | bool | number | string | array => rfl

end

section
variable {p : Policy} {here : Path} {inEnum : Bool} {s : Spec}

/-- The check of a specification, given those of the parts of a value. -/
theorem checkSpec_eq_outcome {input : Option Json} {partIssues : Json → List Issue}
    (he : ¬ (Node.spec s).IsEnum) (h : ∀ v, input = some v →
      forM (s.parts v) (Part.check p here) = p.outcome (partIssues v) ()) :
    checkSpec p s input here inEnum =
      p.outcome (s.issuesWith p.matcher? input here partIssues) () := by
  unfold Spec.issuesWith
  by_cases hu : s.type = .undeclared
  · rw [checkSpec_undeclared _ _ _ _ hu, checkProperties_eq_outcome, hu]
    apply Policy.outcome_bind
    exact Policy.raise_eq_outcome _
  cases input with
  | none =>
    rw [checkSpec_none _ _ _ hu, checkProperties_eq_outcome]
    apply Policy.outcome_bind
    cases ht : s.type with
    | undeclared => exact absurd ht hu
    | enum members => exact absurd ⟨members, ht⟩ he
    | tag | malformed => exact checkPresence_eq_outcome _ _
  | some v =>
    cases ht : s.type with
    | undeclared => exact absurd ht hu
    | enum members => exact absurd ⟨members, ht⟩ he
    | malformed raw =>
      rw [checkSpec_malformed _ _ _ _ ht, checkProperties_eq_outcome]
      apply Policy.outcome_bind
      dsimp only
      split
      · rfl
      · exact Policy.raise_eq_outcome _
    | tag name =>
      rw [checkSpec_tag _ _ _ _ ht, checkProperties_eq_outcome]
      apply Policy.outcome_bind
      dsimp only
      split
      · rfl
      rw [checkTag_eq_outcome]
      apply Policy.outcome_bind
      unfold Json.hasType?
      cases TypeTag.parse? name with
      | none => rfl
      | some tag =>
        by_cases hv : tag.admits v = true
        · simp only [Option.filter_some, Option.map_some, hv, if_true]
          rw [checkFacets_eq hv, checkContent_eq_outcome]
          apply Policy.outcome_bind
          rw [h v rfl]
          apply Policy.outcome_bind
          exact checkClosed_eq_outcome s v
        · simp only [Option.filter_some, Option.map_some, hv, Bool.false_eq_true, if_false]
          rfl

/-- Without enumerations a check is the outcome of its issues. -/
theorem Node.EnumFree.checkNode_eq_outcome {n : Node} (h : n.EnumFree) (p : Policy)
    (input : Option Json) (here : Path) (inEnum : Bool) :
    checkNode p n input here inEnum = p.outcome (n.issues p.matcher? input here) () := by
  induction n using Node.holds_induction generalizing input here inEnum with
  | h n ih =>
    cases n with
    | tag name =>
      cases input with
      | none =>
        rw [issues]
        rfl
      | some v =>
        rw [issues, ← List.append_nil (tagIssues here {} name v), checkNode, checkType,
          checkTag_eq_outcome]
        exact Policy.outcome_bind (Policy.outcome_nil _).symm
    | enum members => exact absurd trivial h.not_isEnum
    | spec s =>
      rw [checkNode_spec, issues_spec]
      apply checkSpec_eq_outcome h.not_isEnum
      intro v _
      apply Policy.forM_eq_outcome
      intro x hx
      have hheld := Spec.holds_of_mem_parts hx
      exact ih x.node hheld (h.of_holds hheld) x.value _ false

end

/-- The report of the first issue that a catalog has a template for, or else a
value. -/
def Catalog.outcome {α : Type} (c : Catalog) (issues : List Issue) (a : α) : Except Report α :=
  match issues.findSome? c.report? with
  | some r => .error r
  | none => .ok a

theorem Catalog.mapError_outcome {α : Type} (c : Catalog)
    (matcher? : String → Option (String → Bool)) (issues : List Issue) (a : α) :
    ((c.policy matcher?).outcome issues a).mapError c.report = c.outcome issues a := by
  unfold Policy.outcome Policy.first? outcome
  induction issues with
  | nil => rfl
  | cons i rest ih =>
    cases hi : c.covers i.domain i.code with
    | true => simp [policy, report?, hi, Except.mapError]
    | false => simpa [policy, report?, hi] using ih

/-- The issues of a schema and an input: those of the extension in the order of
its walk, then those of the check of the extended schema. -/
def validationIssues (matcher? : String → Option (String → Bool)) (schema : Node)
    (input : Json) : List Issue :=
  schema.fieldIssues input Path.root ++
    (schema.extended input).issues matcher? (some input) Path.root

/-- A schema without enumerations and an input have one list of issues, and every
catalog reports the first of them that it has a template for.  The list begins
with the fields that are not paths; it goes on with the check of the extension
for which the blocks of these fields are skipped. -/
theorem first_covered_issue_is_reported (matcher? : String → Option (String → Bool))
    (schema : Node) (input : Json) (h : schema.EnumFree) :
    (∀ c : Catalog, validateWith matcher? c schema input =
      c.outcome (validationIssues matcher? schema input) ()) ∧
    (∀ i ∈ schema.fieldIssues input Path.root, i.domain = .schema ∧ i.code = .invalidPath) ∧
    (∀ c : Catalog, extendUnder c schema input =
      c.outcome (schema.fieldIssues input Path.root) (schema.extended input)) ∧
    ∀ c : Catalog, (checkNode (c.policy matcher?) (schema.extended input) (some input) Path.root
      false).mapError c.report =
        c.outcome ((schema.extended input).issues matcher? (some input) Path.root) () := by
  have hcheck (c : Catalog) := (h.extended input).checkNode_eq_outcome (c.policy matcher?)
    (some input) Path.root false
  refine ⟨fun c => ?_, fun i hi => Node.code_of_mem_fieldIssues hi, fun c => ?_, fun c => ?_⟩
  · rw [← c.mapError_outcome matcher?, validateWith_eq, check, extend, Node.extend_eq_outcome]
    exact congrArg _ (Policy.outcome_bind (hcheck c))
  · rw [extendUnder_eq, extend, Node.extend_eq_outcome, Catalog.mapError_outcome]
  · rw [hcheck c, ← c.mapError_outcome matcher?]
    rfl

/-- An object with a block whose field is not a path, and with a member `n` whose
length has a lower bound that is not a number. -/
def nullMinLength : Node :=
  .spec { Spec.ofTag "object" with
    properties := .declared [("n", .spec { Spec.ofTag "string" with
      limits := { minLength := some .null } })]
    conditions := [⟨"k..", [⟨some .equal, none, some [("m", .tag "null")], none, none⟩]⟩] }

/-- A catalog that words nothing but unexpected keys. -/
def keysOnly : Catalog := ⟨[], [("unexpectedKey", "Unexpected key $key")]⟩

/-- The key that is not declared is the first issue that this catalog reports,
behind the field and the bound. -/
theorem nullMinLength_reports :
    nullMinLength.EnumFree ∧
    keysOnly.outcome (validationIssues (fun _ => none) nullMinLength
      (.object [("n", .string "a"), ("u", .null)])) () =
      .error (keysOnly.report (dataIssue .unexpectedKey [.key "u"] {})) := by
  have hlength : (Node.spec { Spec.ofTag "string" with
      limits := { minLength := some .null } }).EnumFree :=
    Node.enumFree_iff_children.mpr ⟨by rintro ⟨_, ⟨⟩⟩, fun child hc => by cases hc⟩
  have hnull : (Node.tag "null").EnumFree :=
    Node.enumFree_iff_children.mpr ⟨id, fun child hc => by cases hc⟩
  have hfree : nullMinLength.EnumFree := by
    refine Node.enumFree_iff_children.mpr ⟨by rintro ⟨_, ⟨⟩⟩, fun child hc => ?_⟩
    have hchildren : nullMinLength.children = [.spec { Spec.ofTag "string" with
        limits := { minLength := some .null } }, .tag "null"] := rfl
    rw [hchildren, List.mem_pair] at hc
    rcases hc with rfl | rfl
    · exact hlength
    · exact hnull
  have hcheck : check (keysOnly.policy fun _ => none) nullMinLength
      (.object [("n", .string "a"), ("u", .null)]) =
      .error (dataIssue .unexpectedKey [.key "u"] {}) := by
    cbv
  refine ⟨hfree, ?_⟩
  rw [← (first_covered_issue_is_reported _ _ _ hfree).1]
  exact validateWith_eq_error_iff.mpr ⟨_, hcheck, rfl⟩

end Conform
