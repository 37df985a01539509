import Conform.Proofs.Check.Comparison
import Conform.Proofs.Check.SchemaIssues
import Conform.Proofs.Extension.Result
import Conform.Proofs.Issue.Rendering

/-!
# What a catalog decides

A catalog decides which issues are reported and how they are worded, and nothing
else: two catalogs that cover the same codes report the same issues.  It is
enough that they agree on the codes that are ever raised.  The built-in catalog
covers these, and its templates ask for no parameter but those that are given
where the code is raised.
-/
namespace Conform

/-- Two reports say the same thing, in whatever words. -/
structure Report.SameButMessage (r r' : Report) : Prop where
  domain : r.domain = r'.domain
  code : r.code = r'.code
  path : r.path = r'.path
  annotations : r.annotations = r'.annotations

/-- Two policies agree on every issue that is ever raised. -/
structure Policy.AgreesWith (p q : Policy) : Prop where
  matcher? : p.matcher? = q.matcher?
  reports : ∀ domain, ∀ code ∈ Domain.raised domain, p.reports domain code = q.reports domain code

namespace Policy.AgreesWith
variable {p q : Policy}

theorem raise_eq (h : p.AgreesWith q) (i : Issue) (hi : i.code ∈ i.domain.raised) :
    p.raise i = q.raise i := by
  unfold raise
  rw [h.reports i.domain i.code hi]

theorem outcome_eq {α : Type} (h : p.AgreesWith q) {issues : List Issue} (a : α)
    (hi : ∀ i ∈ issues, i.code ∈ i.domain.raised) : p.outcome issues a = q.outcome issues a := by
  have hfirst : p.first? issues = q.first? issues := by
    unfold first?
    induction issues with
    | nil => rfl
    | cons i rest ih =>
      rw [List.forall_mem_cons] at hi
      rw [List.find?_cons, List.find?_cons, h.reports _ _ hi.1, ih hi.2]
  unfold outcome
  rw [hfirst]

def comparison (h : p.AgreesWith q) : Comparison Issue Issue :=
  .ofPolicies .same p q (fun _ _ => True) h.matcher? (fun _ _ => trivial) (fun _ _ => trivial)
    h.raise_eq fun _ hcheck hrest => congrArg₂ tryNext hcheck hrest

/-- Policies that agree on what is raised come to the same end. -/
theorem check_eq (h : p.AgreesWith q) (schema : Node) (input : Json) :
    check p schema input = check q schema input := by
  have hextend : extend p schema input = extend q schema input := by
    unfold extend
    rw [Node.extend_eq_outcome, Node.extend_eq_outcome]
    refine h.outcome_eq _ fun i hi => ?_
    obtain ⟨s, there, field, reason, rfl⟩ := Node.exists_of_mem_fieldIssues hi
    change IssueCode.invalidPath ∈ Domain.schema.raised
    decide
  have hnode (extended : Node) : checkNode p extended (some input) Path.root false =
      checkNode q extended (some input) Path.root false :=
    h.comparison.related extended trivial (.some rfl) rfl
  unfold check
  rw [hextend]
  exact congrArg _ (funext hnode)

end Policy.AgreesWith

theorem Catalog.sameButMessage_report (c d : Catalog) (i : Issue) :
    (c.report i).SameButMessage (d.report i) := ⟨rfl, rfl, rfl, rfl⟩

/-- Catalogs that cover the same of what is raised differ in their words only. -/
theorem Catalog.alike_of_covers {c d : Catalog}
    (h : ∀ domain, ∀ code ∈ Domain.raised domain, c.covers domain code = d.covers domain code)
    (matcher? : String → Option (String → Bool)) (schema : Node) (input : Json) :
    Alike Report.SameButMessage (validateWith matcher? c schema input)
      (validateWith matcher? d schema input) := by
  have hagrees : (c.policy matcher?).AgreesWith (d.policy matcher?) := ⟨rfl, h⟩
  rw [validateWith_eq, validateWith_eq, hagrees.check_eq]
  refine (Alike.refl (S := Eq) (fun _ => rfl) _).mapError ?_
  rintro i _ rfl
  exact c.sameButMessage_report d i

theorem Catalog.builtin_covers : ∀ domain, ∀ code ∈ Domain.raised domain,
    builtin.covers domain code = true := by
  intro domain
  cases domain <;> decide

/-- The names of the parameters for the wording of an issue. -/
def Domain.parameterNames : Domain → IssueCode → List String
  | schema, .typeof => ["type", "allowedTypes", "path"]
  | schema, .invalidPath => ["expression", "reason", "path"]
  | schema, .pattern => ["pattern", "path"]
  | schema, .requireType | schema, .properties | schema, .nestedEnum => ["path"]
  | schema, _ => ["bound", "path"]
  | data, .typeof => ["type", "path"]
  | data, .required => ["path"]
  | data, .enum => ["enums", "path"]
  | data, .unexpectedKey => ["key", "path"]
  | data, code => [code.name, "path"]

/-- The issue is one of those that are raised, with the parameters for it. -/
structure Issue.WellFormed (i : Issue) : Prop where
  raised : i.code ∈ i.domain.raised
  names : i.parameters.map Prod.fst = i.domain.parameterNames i.code

namespace Issue.WellFormed
variable {here : Path} {about : Annotations}

theorem of_params {domain : Domain} {code : IssueCode} {params : List (String × String)}
    (hraised : code ∈ domain.raised) (hcode : code ≠ .unexpectedKey)
    (h : params.map Prod.fst ++ ["path"] = domain.parameterNames code) :
    Issue.WellFormed ⟨domain, code, here, params, about⟩ where
  raised := hraised
  names := by
    cases code with
    | unexpectedKey => exact absurd rfl hcode
    | _ => simpa [parameters] using h

theorem unexpectedKey (key : String) :
    (dataIssue .unexpectedKey (here.child (.key key)) about).WellFormed where
  raised := show IssueCode.unexpectedKey ∈ Domain.data.raised by decide
  names := by simp [dataIssue, parameters, Path.child, Domain.parameterNames]

end Issue.WellFormed

/-- Every raising point of a check gives the parameters of its code. -/
theorem Raises.wellFormed {matcher? : String → Option (String → Bool)} {n : Node}
    {input : Option Json} {here : Path} {inEnum : Bool} {i : Issue}
    (h : Raises matcher? n input here inEnum i) : i.WellFormed := by
  induction h with
  | alternative _ _ _ ih | item _ _ _ ih | property _ _ _ ih => exact ih
  | unexpectedKey => exact .unexpectedKey _
  | maxNotNumber m | minNotNumber m | vacuous m | aboveMax m | belowMin m =>
    cases m <;> exact .of_params (by decide) (by decide) rfl
  | outOfRange h =>
    simp only [Limits.ranges, List.mem_cons, Prod.mk.injEq, List.not_mem_nil, or_false] at h
    rcases h with ⟨rfl, _⟩ | ⟨rfl, _⟩ | ⟨rfl, _⟩ | ⟨rfl, _⟩ <;>
      exact .of_params (by decide) (by decide) rfl
  | properties | requireType | required | unknownType | malformedType | wrongType | unreadPattern
    | pattern | insideEnum | nestedList | noMember =>
    exact .of_params (by decide) (by decide) rfl

/-- Whatever issue stops a check is one of those that are raised. -/
theorem check_stops_wellFormed (p : Policy) (schema : Node) (input : Json) :
    p.StopsWith (check p schema input) Issue.WellFormed := by
  refine Policy.StopsWith.bind ?_ fun extended _ => ?_
  · rw [extend, Node.extend_eq_outcome]
    apply Policy.stopsWith_outcome
    intro i hi
    obtain ⟨s, there, field, reason, rfl⟩ := Node.exists_of_mem_fieldIssues hi
    exact .of_params (by decide) (by decide) rfl
  · exact (checkNode_raises p extended (some input) Path.root false).imp fun i h => h.wellFormed

/-- The built-in templates ask for parameters that the issues of their codes have. -/
theorem Catalog.builtin_asks : ∀ domain, ∀ code ∈ Domain.raised domain,
    ∀ template ∈ builtin.template? domain code,
      (Template.split template.toList).Asks (domain.parameterNames code) := by
  intro domain
  cases domain <;> decide +kernel

/-- Under the built-in catalog a check ends as it does under every catalog that
has a template for each code, and the message of a report has a parameter in the
place of each placeholder. -/
theorem builtin_covers_every_check (matcher? : String → Option (String → Bool)) (schema : Node)
    (input : Json) :
    (∀ c : Catalog, (∀ domain, ∀ code ∈ IssueCode.all, c.covers domain code = true) →
      Alike Report.SameButMessage (validateWith matcher? .builtin schema input)
        (validateWith matcher? c schema input)) ∧
    ∀ r, validateWith matcher? .builtin schema input = .error r →
      ∃ i template, check (Catalog.builtin.policy matcher?) schema input = .error i ∧
        r = Catalog.builtin.report i ∧
        Catalog.builtin.template? r.domain r.code = some template ∧
        (Template.split template.toList).Bound i.parameters ∧
        r.message.toList = (Template.split template.toList).expansion i.parameters := by
  constructor
  · intro c hc
    apply Catalog.alike_of_covers
    intro domain code hcode
    rw [Catalog.builtin_covers domain code hcode, hc domain code (by cases code <;> decide)]
  · intro r hr
    obtain ⟨i, hi, rfl⟩ := validateWith_eq_error_iff.mp hr
    obtain ⟨_, hformed⟩ := check_stops_wellFormed _ _ _ i hi
    obtain ⟨template, htemplate⟩ :=
      Option.isSome_iff_exists.mp (Catalog.builtin_covers i.domain i.code hformed.raised)
    have hasks := Catalog.builtin_asks i.domain i.code hformed.raised template htemplate
    rw [← hformed.names] at hasks
    refine ⟨i, template, hi, rfl, htemplate, hasks.bound, ?_⟩
    rw [← hasks.bound.fill_eq]
    simp [Catalog.report, htemplate, render]

/-- A catalog that has the same template for every code. -/
def Catalog.uniform (template : String) : Catalog :=
  let table := IssueCode.all.map fun code => (code.name, template)
  ⟨table, table⟩

/-- An object whose member `n` is an object without members. -/
def emptyMember : Node :=
  .spec { Spec.ofTag "object" with properties := .declared [("n", .spec (Spec.ofTag "object"))] }

/-- A key in the member is reported, and named with the object that holds it; a
catalog of question marks reports it as well. -/
theorem emptyMember_reports :
    (∀ domain, ∀ code ∈ IssueCode.all, (Catalog.uniform "?").covers domain code = true) ∧
    Alike Report.SameButMessage
      (validateWith (fun _ => none) .builtin emptyMember
        (.object [("n", .object [("k", .null)])]))
      (validateWith (fun _ => none) (.uniform "?") emptyMember
        (.object [("n", .object [("k", .null)])])) ∧
    ∃ r, validateWith (fun _ => none) .builtin emptyMember
        (.object [("n", .object [("k", .null)])]) = .error r ∧
      r.message = "Unexpected key `k` in n" ∧
      ∃ i template, check (Catalog.builtin.policy fun _ => none) emptyMember
          (.object [("n", .object [("k", .null)])]) = .error i ∧
        r = Catalog.builtin.report i ∧
        Catalog.builtin.template? r.domain r.code = some template ∧
        (Template.split template.toList).Bound i.parameters ∧
        r.message.toList = (Template.split template.toList).expansion i.parameters := by
  have hcovers : ∀ domain, ∀ code ∈ IssueCode.all,
      (Catalog.uniform "?").covers domain code = true := by
    intro domain
    cases domain <;> decide
  obtain ⟨halike, hreports⟩ := builtin_covers_every_check (fun _ => none) emptyMember
    (.object [("n", .object [("k", .null)])])
  have hcheck : check (Catalog.builtin.policy fun _ => none) emptyMember
      (.object [("n", .object [("k", .null)])]) =
      .error (dataIssue .unexpectedKey [.key "n", .key "k"] {}) := by
    cbv
  have hreport := validateWith_eq_error_iff.mpr ⟨_, hcheck, rfl⟩
  have hmessage : (Catalog.builtin.report
      (dataIssue .unexpectedKey [.key "n", .key "k"] {})).message = "Unexpected key `k` in n" := by
    decide +kernel
  exact ⟨hcovers, halike _ hcovers, _, hreport, hmessage, hreports _ hreport⟩

/-- Of a run only the wording is left to the catalog.  Catalogs with templates
for the same codes reject the same inputs with reports that differ in the
message only; a code that is reported has a template; without templates
everything is accepted. -/
theorem catalogs_differ_in_wording_only (matcher? : String → Option (String → Bool))
    (schema : Node) (input : Json) :
    (∀ c d : Catalog, (∀ domain code, c.covers domain code = d.covers domain code) →
      Alike Report.SameButMessage (validateWith matcher? c schema input)
        (validateWith matcher? d schema input)) ∧
    (∀ (c : Catalog) r, validateWith matcher? c schema input = .error r →
      c.covers r.domain r.code = true) ∧
    validateWith matcher? .empty schema input = .ok () := by
  have hcovered (c : Catalog) (r : Report) (hr : validateWith matcher? c schema input = .error r) :
      c.covers r.domain r.code = true := by
    obtain ⟨i, hi, rfl⟩ := validateWith_eq_error_iff.mp hr
    exact (check_stops_wellFormed _ _ _ i hi).1
  refine ⟨fun c d h => Catalog.alike_of_covers (fun domain code _ => h domain code) ..,
    hcovered, ?_⟩
  cases hr : validateWith matcher? .empty schema input with
  | ok _ => rfl
  | error r =>
    have hempty : Catalog.empty.covers r.domain r.code = false := by cases r.domain <;> rfl
    rw [hcovered _ _ hr] at hempty
    cases hempty

/-- The null where a string is due is reported by the built-in catalog, and in
another word once the template is replaced. -/
theorem rewordedType_reports :
    (∀ domain code, Catalog.builtin.covers domain code =
      (Catalog.builtin.set .data .typeof "No").covers domain code) ∧
    Alike Report.SameButMessage (validateWith (fun _ => none) .builtin (.tag "string") .null)
      (validateWith (fun _ => none) (Catalog.builtin.set .data .typeof "No") (.tag "string")
        .null) ∧
    ∃ r, validateWith (fun _ => none) (Catalog.builtin.set .data .typeof "No") (.tag "string")
        .null = .error r ∧
      r.message = "No" ∧
      (Catalog.builtin.set .data .typeof "No").covers r.domain r.code = true := by
  have hcovers : ∀ domain code, Catalog.builtin.covers domain code =
      (Catalog.builtin.set .data .typeof "No").covers domain code := by
    intro domain code
    cases domain <;> cases code <;> decide
  obtain ⟨halike, hcovered, _⟩ :=
    catalogs_differ_in_wording_only (fun _ => none) (.tag "string") .null
  have hcheck : check ((Catalog.builtin.set .data .typeof "No").policy fun _ => none)
      (.tag "string") .null = .error (dataIssue .typeof Path.root {} [("type", "string")]) := by
    cbv
  have hreport := validateWith_eq_error_iff.mpr ⟨_, hcheck, rfl⟩
  have hmessage : ((Catalog.builtin.set .data .typeof "No").report
      (dataIssue .typeof Path.root {} [("type", "string")])).message = "No" := by
    decide +kernel
  exact ⟨hcovers, halike _ _ hcovers, _, hreport, hmessage, hcovered _ _ hreport⟩

end Conform
