import Conform.Proofs.Check.Comparison
import Conform.Proofs.Check.Listing
import Conform.Proofs.Check.SchemaIssues
import Conform.Proofs.Extension.Reordering

/-!
# Verdicts and the order of keys

Inputs that differ in the order of keys are checked side by side: what belongs
together in them is aligned, and equality does not tell it apart.  The order is
seen at one point only.  Of several keys that are not admitted in an object the
first one is reported, so the reports may name different keys of that object.
-/
namespace Conform

/-- The issues are the same, or name two keys that are not admitted in one object. -/
inductive Issue.SameUpToKey (p : Policy) : Issue → Issue → Prop where
  | same (i : Issue) : SameUpToKey p i i
  | key (here : Path) (about : Annotations) (key key' : String)
    (h : p.reports .data .unexpectedKey = true) : SameUpToKey p
      (dataIssue .unexpectedKey (here.child (.key key)) about)
      (dataIssue .unexpectedKey (here.child (.key key')) about)

/-- The reports are the same, or name two keys that are not admitted in one
object: the paths end in these keys, and the messages come from one template in
which only the name of the key differs. -/
inductive Report.SameUpToKey (c : Catalog) : Report → Report → Prop where
  | same (r : Report) : SameUpToKey c r r
  | key (here : Path) (about : Annotations) (key key' template : String)
    (h : c.template? .data .unexpectedKey = some template) : SameUpToKey c
      ⟨.data, .unexpectedKey, here.child (.key key),
        render template [("key", key), ("path", here.text)], about⟩
      ⟨.data, .unexpectedKey, here.child (.key key'),
        render template [("key", key'), ("path", here.text)], about⟩

namespace Issue.SameUpToKey
variable {p : Policy} {i j : Issue}

theorem domain_eq (h : i.SameUpToKey p j) : i.domain = j.domain := by
  cases h <;> rfl

theorem report {c : Catalog} {matcher? : String → Option (String → Bool)}
    (h : i.SameUpToKey (c.policy matcher?) j) : (c.report i).SameUpToKey c (c.report j) := by
  cases h with
  | same i => exact .same _
  | key here about key key' h =>
    obtain ⟨template, htemplate⟩ := Option.isSome_iff_exists.mp h
    have hreport (key : String) :
        c.report (dataIssue .unexpectedKey (here.child (.key key)) about) =
          ⟨.data, .unexpectedKey, here.child (.key key),
            render template [("key", key), ("path", here.text)], about⟩ := by
      simp [Catalog.report, dataIssue, htemplate, parameters, Path.child, Segment.text]
    rw [hreport, hreport]
    exact .key here about key key' template htemplate

end Issue.SameUpToKey

/-- Whatever keys are not admitted, the first of them is reported. -/
theorem outcome_alike_of_keys (p : Policy) (here : Path) (about : Annotations)
    {keys keys' : List String} (h : keys.Perm keys') :
    Alike (Issue.SameUpToKey p)
      (p.outcome (keys.map fun key => dataIssue .unexpectedKey (here.child (.key key)) about) ())
      (p.outcome (keys'.map fun key => dataIssue .unexpectedKey (here.child (.key key)) about)
        ()) := by
  cases hr : p.reports .data .unexpectedKey with
  | false =>
    have hnone (keys : List String) : p.first? (keys.map fun key =>
        dataIssue .unexpectedKey (here.child (.key key)) about) = none := by
      simp [Policy.first?, dataIssue, hr]
    rw [Policy.outcome, hnone, Policy.outcome, hnone]
    exact .ok ()
  | true =>
    have hfirst (key : String) (rest : List String) : p.outcome ((key :: rest).map fun key =>
        dataIssue .unexpectedKey (here.child (.key key)) about) () =
          .error (dataIssue .unexpectedKey (here.child (.key key)) about) := by
      simp [Policy.outcome, Policy.first?, dataIssue, hr]
    cases keys with
    | nil =>
      rw [← h.nil_eq]
      exact .ok ()
    | cons key rest =>
      cases keys' with
      | nil => exact absurd h.symm.nil_eq (by simp)
      | cons key' rest' =>
        rw [hfirst, hfirst]
        exact .error (.key here about key key' hr)

theorem checkClosed_alike (p : Policy) (s : Spec) (here : Path) {v w : Json} (h : v.Reordered w) :
    Alike (Issue.SameUpToKey p) (checkClosed p s v here) (checkClosed p s w here) := by
  rw [checkClosed_eq_outcome, checkClosed_eq_outcome]
  cases h with
  | @object ms ns _ hkeys _ =>
    exact outcome_alike_of_keys p here s.annotations (hkeys.filter fun key => !s.allowsKey key)
  | null | bool | number | string | array => exact .ok ()

/-- The comparison of checks of inputs that differ in the order of keys. -/
def Comparison.ofReordered (p : Policy) : Comparison Issue Issue where
  toRunRelation := .alike (Issue.SameUpToKey p)
  left := p
  right := p
  values := Json.Reordered
  places := Eq
  nodes _ _ := True
  matcher? := rfl
  aligned h := h.aligned
  literal h := h.interchangeable.right
  child := Path.child_congr
  part _ _ := trivial
  alternative _ _ := trivial
  raise := by
    rintro domain code here _ params about _ rfl
    exact Alike.refl .same _
  closed := by
    rintro s v w here _ h rfl
    exact checkClosed_alike p s here h
  trial := by
    rintro a input input' here _ rest rest' _ _ rfl hcheck hrest
    exact Alike.tryNext (fun _ _ => Issue.SameUpToKey.domain_eq) hcheck hrest

theorem check_alike (p : Policy) (schema : Node) {v w : Json} (h : v.Reordered w) :
    Alike (Issue.SameUpToKey p) (check p schema v) (check p schema w) := by
  unfold check extend
  rw [schema.extend_eq h]
  exact (Alike.refl .same _).bind fun extended _ _ =>
    (Comparison.ofReordered p).related extended trivial (.some h) rfl

/-- Inputs that differ in the order of keys only extend a schema in the same way
and come to the same verdict; where a key is not admitted the reports may name
different keys of one object. -/
theorem key_order_is_immaterial (matcher? : String → Option (String → Bool)) (c : Catalog)
    (schema : Node) (v w : Json) (h : v.Reordered w) :
    extendUnder c schema v = extendUnder c schema w ∧
    Alike (Report.SameUpToKey c) (validateWith matcher? c schema v)
      (validateWith matcher? c schema w) := by
  constructor
  · rw [extendUnder_eq, extendUnder_eq, extend, extend, schema.extend_eq h]
  · rw [validateWith_eq, validateWith_eq]
    exact (check_alike (c.policy matcher?) schema h).mapError fun _ _ h => h.report

/-- An object to which a block adds the property `n`, if its member `k` is a
certain object. -/
def extendsOnMatch : Node :=
  .spec { Spec.ofTag "object" with
    properties := .declared [("k", .tag "object")]
    conditions := [⟨"k", [⟨some .equal, some (.object [("x", .null), ("y", .bool true)]),
      some [("n", .tag "string")], none, none⟩]⟩] }

def matchFirst : Json :=
  .object [("k", .object [("x", .null), ("y", .bool true)]), ("a", .null), ("b", .null)]

def matchLast : Json :=
  .object [("b", .null), ("a", .null), ("k", .object [("y", .bool true), ("x", .null)])]

/-- In both inputs the member `k` is the object of the block, and the first of the
keys that are not admitted is reported. -/
theorem extendsOnMatch_reports :
    matchFirst.Reordered matchLast ∧
    extendUnder .builtin extendsOnMatch matchFirst = extendUnder .builtin extendsOnMatch matchLast ∧
    Alike (Report.SameUpToKey .builtin)
      (validateWith (fun _ => none) .builtin extendsOnMatch matchFirst)
      (validateWith (fun _ => none) .builtin extendsOnMatch matchLast) ∧
    (∃ r, validateWith (fun _ => none) .builtin extendsOnMatch matchFirst = .error r ∧
      r.path = [.key "a"]) ∧
    ∃ r, validateWith (fun _ => none) .builtin extendsOnMatch matchLast = .error r ∧
      r.path = [.key "b"] := by
  have hinner : (Json.object [("x", .null), ("y", .bool true)]).Reordered
      (.object [("y", .bool true), ("x", .null)]) := by
    refine .object (by decide) (by decide) fun key v w hv hw => ?_
    have hmem := Table.mem_of_get? hv
    simp only [List.mem_cons, Prod.mk.injEq, List.not_mem_nil, or_false] at hmem
    rcases hmem with ⟨rfl, rfl⟩ | ⟨rfl, rfl⟩ <;> cases hw
    · exact .null
    · exact .bool true
  have hreordered : matchFirst.Reordered matchLast := by
    refine .object (by decide) (by decide) fun key v w hv hw => ?_
    have hmem := Table.mem_of_get? hv
    simp only [List.mem_cons, Prod.mk.injEq, List.not_mem_nil, or_false] at hmem
    rcases hmem with ⟨rfl, rfl⟩ | ⟨rfl, rfl⟩ | ⟨rfl, rfl⟩ <;> cases hw
    · exact hinner
    · exact .null
    · exact .null
  have hfirst : check (Catalog.builtin.policy fun _ => none) extendsOnMatch matchFirst =
      .error (dataIssue .unexpectedKey [.key "a"] {}) := by
    cbv
  have hlast : check (Catalog.builtin.policy fun _ => none) extendsOnMatch matchLast =
      .error (dataIssue .unexpectedKey [.key "b"] {}) := by
    cbv
  obtain ⟨hextend, halike⟩ :=
    key_order_is_immaterial (fun _ => none) .builtin extendsOnMatch _ _ hreordered
  exact ⟨hreordered, hextend, halike,
    ⟨_, validateWith_eq_error_iff.mpr ⟨_, hfirst, rfl⟩, rfl⟩,
    _, validateWith_eq_error_iff.mpr ⟨_, hlast, rfl⟩, rfl⟩

end Conform
