import Conform.Proofs.Check.Issues
import Conform.Proofs.Check.Wording
import Conform.Proofs.Extension.Defects
import Conform.Proofs.Schema.Decision

/-!
# Issues about the schema are defects of it

An issue of the schema domain is raised where its defect is: at the node itself
or, for an enumeration that is an alternative of another, at the outer one.  The
extension brings no defects, so the defect is one of the schema as it was given.
-/
namespace Conform
variable {matcher? : String → Option (String → Bool)}

/-- The defect of an issue is in the node, unless the node is an enumeration
inside of another. -/
theorem Raises.hasDefect {n : Node} {input : Option Json} {here : Path} {inEnum : Bool}
    {i : Issue} (h : Raises matcher? n input here inEnum i) (hi : i.domain = .schema) :
    n.HasDefect matcher? i.code ∨ (inEnum = true ∧ n.IsEnum ∧ i.code = .nestedEnum) := by
  induction h with
  | properties h => exact .inl (Node.Defect.properties h).hasDefect
  | requireType h => exact .inl (Node.Defect.requireType h).hasDefect
  | @unknownType n name v here inEnum h hn =>
    refine .inl (Node.Defect.hasDefect ?_)
    cases n with
    | tag name =>
      cases h
      exact .unknownTag hn
    | enum members => cases h
    | spec s =>
      cases ht : s.type with
      | tag name' =>
        rw [Node.typeName?, ht] at h
        cases h
        exact .unknownType ht hn
      | undeclared | enum | malformed =>
        rw [Node.typeName?, ht] at h
        cases h
  | malformedType h => exact .inl (Node.Defect.malformedType h).hasDefect
  | unreadPattern h hs => exact .inl (Node.Defect.pattern h hs).hasDefect
  | maxNotNumber m _ h hraw => exact .inl (Node.Defect.maxBound m h hraw).hasDefect
  | minNotNumber m _ h hraw => exact .inl (Node.Defect.minBound m h hraw).hasDefect
  | vacuous m _ h hb => exact .inl (Node.Defect.vacuous m h hb).hasDefect
  | insideEnum h => exact .inr ⟨rfl, h, rfl⟩
  | nestedList h => exact .inl (Node.Defect.nestedList h).hasDefect
  | alternative h _ _ ih =>
    have hmem := List.mem_of_getElem? h
    rcases ih hi with hd | ⟨_, ha, hcode⟩
    · exact .inl (hd.of_holds (.alternative hmem))
    · -- The inner enumeration is none of the defects; that it is an alternative is.
      rw [hcode]
      exact .inl (Node.Defect.nestedEnum hmem ha).hasDefect
  | item h _ _ ih =>
    rcases ih hi with hd | ⟨hin, _⟩
    · exact .inl (hd.of_holds (.item (Items.mem_nodes_of_nodeAt? h)))
    · cases hin
  | property h hn _ ih =>
    rcases ih hi with hd | ⟨hin, _⟩
    · exact .inl (hd.of_holds (.property h hn))
    · cases hin
  | required | wrongType | pattern | aboveMax | belowMin | outOfRange | unexpectedKey | noMember =>
    cases hi

/-- A check outside of enumerations raises issues about the schema only for its
defects. -/
theorem checkNode_stops_schema (p : Policy) (n : Node) (input : Option Json) (here : Path) :
    p.StopsWith (checkNode p n input here false) fun i =>
      i.domain = .schema → n.HasDefect p.matcher? i.code := by
  refine (checkNode_raises p n input here false).imp fun i hr hi => ?_
  rcases hr.hasDefect hi with hd | ⟨hin, _⟩
  · exact hd
  · cases hin

theorem check_stops_schema (p : Policy) (schema : Node) (input : Json) :
    p.StopsWith (check p schema input) fun i =>
      i.domain = .schema → schema.HasDefect p.matcher? i.code := by
  refine Policy.StopsWith.bind ?_ fun extended hext => ?_
  · exact (schema.extend_stops p.matcher?).imp fun i hi _ => hi.2.1 ▸ hi.2.2
  · exact (checkNode_stops_schema p extended (some input) Path.root).imp fun i hd hi =>
      Node.hasDefect_of_extend hext (hd hi)

theorem validateWith_eq_error_iff {c : Catalog} {schema : Node} {input : Json} {r : Report} :
    validateWith matcher? c schema input = .error r ↔
      ∃ i, check (c.policy matcher?) schema input = .error i ∧ c.report i = r := by
  rw [validateWith_eq]
  cases check (c.policy matcher?) schema input with
  | ok _ => simp [Except.mapError]
  | error i => simp [Except.mapError]

/-- A report about the schema names a defect that the schema has, whatever the
input and the catalog; a schema without defects is never reported. -/
theorem schema_report_names_defect (matcher? : String → Option (String → Bool)) (c : Catalog)
    (schema : Node) (input : Json) :
    (∀ r, validateWith matcher? c schema input = .error r → r.domain = .schema →
      schema.HasDefect matcher? r.code) ∧
    (schema.DefectFree matcher? →
      ∀ r, validateWith matcher? c schema input = .error r → r.domain = .data) := by
  have hreport : ∀ r, validateWith matcher? c schema input = .error r → r.domain = .schema →
      schema.HasDefect matcher? r.code := by
    intro r hr hdomain
    obtain ⟨i, hi, rfl⟩ := validateWith_eq_error_iff.mp hr
    exact (check_stops_schema (c.policy matcher?) schema input i hi).2 hdomain
  refine ⟨hreport, fun hfree r hr => ?_⟩
  cases hd : r.domain with
  | data => rfl
  | schema => exact absurd (hreport r hr hd) (hfree r.code)

/-- An object to which a block adds the property `n` of an unknown type. -/
def injectedTag : Node :=
  .spec { Spec.ofTag "object" with conditions :=
    [⟨"k", [⟨some .equal, some (.string "a"), some [("n", .tag "date")], none, none⟩]⟩] }

/-- The unknown type is reported where the block has added it; a tag that is
known is not reported, the null that it does not admit is. -/
theorem injectedTag_has_defect :
    (∃ r, validateWith (fun _ => none) Catalog.builtin injectedTag
      (.object [("k", .string "a"), ("n", .null)]) = .error r ∧ r.domain = .schema ∧
      r.code = .typeof ∧ r.path = [.key "n"]) ∧
    injectedTag.HasDefect (fun _ => none) .typeof ∧
    (Node.tag "string").DefectFree (fun _ => none) ∧
    ∃ r, validateWith (fun _ => none) Catalog.builtin (.tag "string") .null = .error r ∧
      r.domain = .data := by
  have hcheck : check (Catalog.builtin.policy fun _ => none) injectedTag
      (.object [("k", .string "a"), ("n", .null)]) =
      .error (schemaIssue .typeof [.key "n"] {}
        [("type", "date"), ("allowedTypes", TypeTag.listing)]) := by
    cbv
  have hreport := validateWith_eq_error_iff.mpr ⟨_, hcheck, rfl⟩
  have hfree : (Node.tag "string").DefectFree (fun _ => none) :=
    (Node.isDefectFree_iff _).mp (by cbv)
  have hcheck' : check (Catalog.builtin.policy fun _ => none) (.tag "string") .null =
      .error (dataIssue .typeof Path.root {} [("type", "string")]) := by
    cbv
  have hreport' := validateWith_eq_error_iff.mpr ⟨_, hcheck', rfl⟩
  exact ⟨⟨_, hreport, rfl, rfl, rfl⟩, (schema_report_names_defect _ _ _ _).1 _ hreport rfl,
    hfree, _, hreport', (schema_report_names_defect _ _ _ _).2 hfree _ hreport'⟩

end Conform
