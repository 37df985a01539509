import Conform.Proofs.Check.Passing
import Conform.Proofs.Check.SchemaIssues
import Conform.Proofs.Schema.Decision

/-!
# Acceptance is conformance

A check of a node without defects never stops with an issue about the schema, so
the alternatives of an enumeration can be tried in any order.  By induction on
what a node holds, such a check passes exactly the values that conform to the
node; the extension of a schema without defects is such a node.
-/
namespace Conform

section
variable {p : Policy} {here : Path} {about : Annotations} {members : List Member}
  {input : Option Json}

theorem checkNode_stops_data {n : Node} {inEnum : Bool} (hfree : n.DefectFree p.matcher?)
    (hin : inEnum = true → ¬n.IsEnum) :
    p.StopsWith (checkNode p n input here inEnum) fun i => i.domain = .data := by
  refine (checkNode_raises p n input here inEnum).imp fun i hr => ?_
  cases hd : i.domain with
  | data => rfl
  | schema =>
    rcases hr.hasDefect hd with h | ⟨h, henum, _⟩
    · exact absurd h (hfree _)
    · exact absurd henum (hin h)

/-- Members are tried to the end, or until an alternative accepts the input. -/
theorem tryMembers_eq_ok_iff (hp : p.ReportsData) {label : String} {position : Nat}
    {accepts : Spec → Prop} (hnested : ∀ inner, .nested inner ∉ members)
    (hdata : ∀ a, .alternative a ∈ members → ∀ there,
      p.StopsWith (checkSpec p a input there true) fun i => i.domain = .data)
    (haccepts : ∀ a, .alternative a ∈ members → ∀ there,
      (checkSpec p a input there true = .ok () ↔ accepts a)) :
    tryMembers p members input here about label position = .ok () ↔
      ∃ a, .alternative a ∈ members ∧ accepts a := by
  induction members generalizing position with
  | nil =>
    rw [tryMembers]
    refine iff_of_false (hp.raise_ne_ok (by decide)) ?_
    rintro ⟨a, h, _⟩
    cases h
  | cons member rest ih =>
    have hrest : tryMembers p rest input here about label (position + 1) = .ok () ↔
        ∃ a, .alternative a ∈ rest ∧ accepts a :=
      ih (fun inner h => hnested inner (List.mem_cons_of_mem _ h))
        (fun a h => hdata a (List.mem_cons_of_mem _ h))
        fun a h => haccepts a (List.mem_cons_of_mem _ h)
    cases member with
    | literal value =>
      rw [tryMembers, hrest]
      simp
    | nested inner => exact absurd (List.mem_cons_self ..) (hnested inner)
    | alternative a =>
      have ha := haccepts a (List.mem_cons_self ..) (here.child (.index position))
      rw [tryMembers]
      split
      · rename_i h
        exact iff_of_true rfl ⟨a, List.mem_cons_self .., ha.mp h⟩
      · rename_i i hi
        -- The issue is about the input, so the trial goes on.
        have hreject : ¬accepts a := fun h => by simp [ha.mpr h] at hi
        rw [Complaint.domain_issue, if_pos (hdata a (List.mem_cons_self ..) _ i hi).2, hrest]
        constructor
        · rintro ⟨b, hb, h⟩
          exact ⟨b, List.mem_cons_of_mem _ hb, h⟩
        · rintro ⟨b, hb, h⟩
          rcases List.mem_cons.mp hb with hb | hb
          · cases hb
            exact absurd h hreject
          · exact ⟨b, hb, h⟩

/-- The check of an enumeration, given those of its alternatives. -/
theorem checkEnum_eq_ok_iff (hp : p.ReportsData) {n : Node} (hfree : n.DefectFree p.matcher?)
    (ih : ∀ a, .alternative a ∈ n.members → ∀ there,
      (checkNode p (.spec a) input there true = .ok () ↔ Conforms p.matcher? (.spec a) input)) :
    checkEnum p n.members input here false about = .ok () ↔
      Conforms p.matcher? (.enum n.members) input := by
  have htry : tryMembers p n.members input here about (membersLabel n.members) 0 = .ok () ↔
      ∃ a, .alternative a ∈ n.members ∧ Conforms p.matcher? (.spec a) input := by
    refine tryMembers_eq_ok_iff hp (fun inner h => hfree.not_defect (.nestedList h)) ?_ ?_
    · intro a ha there
      rw [← checkNode_spec]
      exact checkNode_stops_data (hfree.of_holds (.alternative ha)) fun _ henum =>
        hfree.not_defect (.nestedEnum ha henum)
    · intro a ha there
      rw [← checkNode_spec]
      exact ih a ha there
  rw [conforms_enum_iff, ← htry]
  change (if hasLiteral n.members input = true then _ else _) = _ ↔ _
  split
  · rename_i h
    exact iff_of_true rfl (.inl h)
  · rename_i h
    exact (or_iff_right h).symm

theorem checkType_eq_ok_iff (hp : p.ReportsData) {name : String} {v : Json}
    (hfree : (Node.tag name).DefectFree p.matcher?) :
    checkType p name v here = .ok () ↔ Conforms p.matcher? (.tag name) (some v) := by
  cases ht : TypeTag.parse? name with
  | none => exact absurd (.unknownTag ht) hfree.not_defect
  | some tag =>
    unfold checkType
    simp only [bind_eq_ok_iff, checkTag_eq_ok_iff hp ht, conforms_tag_iff, ht]
    simp [pure, Except.pure]

end

section
variable {p : Policy} {here : Path} {s : Spec} {v : Json} {name : String} {tag : TypeTag}

theorem checkProperties_of_defectFree (hfree : (Node.spec s).DefectFree p.matcher?) :
    checkProperties p s.properties here s.annotations = .ok () := by
  cases hs : s.properties with
  | malformed raw => exact absurd (.properties hs) hfree.not_defect
  | undeclared | declared => rfl

/-- The bounds on a size are numbers and the lower one is positive. -/
theorem checkSize_of_defectFree (hp : p.ReportsData) (hfree : (Node.spec s).DefectFree p.matcher?)
    (m : Measure) (size : Nat) : checkSize p m s.limits size here s.annotations = .ok () ↔
      s.limits.AdmitsSize m size := by
  refine checkSize_eq_ok_iff hp ?_ ?_ ?_
  · exact fun raw h hraw => hfree.not_defect (.maxBound m h hraw)
  · exact fun raw h hraw => hfree.not_defect (.minBound m h hraw)
  · intro n h
    by_contra hn
    exact hfree.not_defect (.vacuous m h hn)

theorem checkText_eq_ok_iff (hp : p.ReportsData) (hfree : (Node.spec s).DefectFree p.matcher?)
    (text : String) : checkText p s.limits text here s.annotations = .ok () ↔
      s.limits.AdmitsText p.matcher? text := by
  unfold checkText
  rw [bind_unit_eq_ok_iff, checkSize_of_defectFree hp hfree,
    checkPattern_eq_ok_iff hp fun source h hs => hfree.not_defect (.pattern h hs)]
  exact ⟨fun ⟨hpattern, hlength⟩ => ⟨hpattern, hlength⟩,
    fun ⟨hpattern, hlength⟩ => ⟨hpattern, hlength⟩⟩

/-- The check of a value that has its tag, given those of its items and members. -/
theorem checkFacets_eq_ok_iff (hp : p.ReportsData) (hfree : (Node.spec s).DefectFree p.matcher?)
    (htype : s.type = .tag name) (ht : TypeTag.parse? name = some tag)
    (hv : tag.admits v = true)
    (ih : ∀ child, (Node.spec s).Holds child → ∀ input there,
      (checkNode p child input there false = .ok () ↔ Conforms p.matcher? child input)) :
    checkFacets p s tag v here = .ok () ↔ Conforms p.matcher? (.spec s) (some v) := by
  have htag : s.HasTag v := ⟨name, tag, htype, ht, hv⟩
  cases v with
  | null =>
    refine iff_of_true ?_ (.null htag)
    cases tag <;> rfl
  | bool value =>
    refine iff_of_true ?_ (.bool htag)
    cases tag <;> rfl
  | number n =>
    have hfacets : checkFacets p s tag (.number n) here =
        checkRange p s.limits n here s.annotations := by
      cases tag <;> first | rfl | cases hv
    rw [hfacets, checkRange_eq_ok_iff hp, conforms_number_iff htag]
  | string text =>
    have hfacets : checkFacets p s tag (.string text) here =
        checkText p s.limits text here s.annotations := by
      cases tag <;> first | rfl | cases hv
    rw [hfacets, checkText_eq_ok_iff hp hfree, conforms_string_iff htag]
  | array xs =>
    have hfacets : checkFacets p s tag (.array xs) here = (do
        checkSize p .items s.limits xs.length here s.annotations
        checkItems p s.items xs here) := by
      cases tag <;> first | rfl | cases hv
    have hitem (k : Nat) (node : Node) (x : Json) (hn : s.items.nodeAt? k = some node) :=
      ih node (.item (Items.mem_nodes_of_nodeAt? hn)) (some x) (here.child (.index k))
    rw [hfacets, bind_unit_eq_ok_iff, checkSize_of_defectFree hp hfree, checkItems_eq_ok_iff,
      conforms_array_iff htag]
    refine and_congr_right fun _ => forall_congr' fun k => forall_congr' fun node =>
      forall_congr' fun x => forall_congr' fun hn => ?_
    rw [hitem k node x hn]
  | object ms =>
    have hfacets : checkFacets p s tag (.object ms) here = (do
        checkDeclared p s.properties ms here
        checkUnexpected p s.additionalProperties s.properties ms here s.annotations) := by
      cases tag <;> first | rfl | cases hv
    have hmember (table : Table Node) (key : String) (node : Node)
        (h : s.properties = .declared table) (hn : (key, node) ∈ table) :=
      ih node (.property h hn) (Table.get? ms key) (here.child (.key key))
    rw [hfacets, bind_unit_eq_ok_iff, checkDeclared_eq_ok_iff, checkUnexpected_eq_ok_iff hp,
      conforms_object_iff htag]
    refine and_congr_left fun _ => forall_congr' fun table => forall_congr' fun key =>
      forall_congr' fun node => forall_congr' fun h => forall_congr' fun hn => ?_
    exact hmember table key node h hn

/-- The check of a present value against a specification with a tag. -/
theorem checkSpec_tag_eq_ok_iff (hp : p.ReportsData)
    (hfree : (Node.spec s).DefectFree p.matcher?) {inEnum : Bool} (htype : s.type = .tag name)
    (ih : ∀ child, (Node.spec s).Holds child → ∀ input there,
      (checkNode p child input there false = .ok () ↔ Conforms p.matcher? child input)) :
    checkSpec p s (some v) here inEnum = .ok () ↔ Conforms p.matcher? (.spec s) (some v) := by
  cases ht : TypeTag.parse? name with
  | none => exact absurd (.unknownType htype ht) hfree.not_defect
  | some tag =>
    rw [checkSpec_tag _ _ _ _ htype, bind_unit_eq_ok_iff,
      and_iff_right (checkProperties_of_defectFree hfree)]
    split
    · rename_i hnull
      rw [Bool.and_eq_true] at hnull
      refine iff_of_true rfl ?_
      cases v with
      | null => exact .nullable htype hnull.1
      | bool | number | string | array | object => cases hnull.2
    · rename_i hnull
      by_cases hv : tag.admits v = true
      · rw [checkTag_of_admits ht hv]
        exact checkFacets_eq_ok_iff hp hfree htype ht hv ih
      · refine iff_of_false ?_ fun h => ?_
        · rw [bind_eq_ok_iff]
          rintro ⟨found, hfound, _⟩
          exact hv ((checkTag_eq_ok_iff hp ht).mp hfound).1
        · rcases h.hasTag htype with ⟨hn, rfl⟩ | ⟨name', tag', htype', ht', hv'⟩
          · simp [hn, Json.isNull] at hnull
          · cases htype.symm.trans htype'
            cases ht.symm.trans ht'
            exact hv hv'

/-- The check of a present value against a specification with an enumeration. -/
theorem checkSpec_enum_eq_ok_iff (hp : p.ReportsData)
    (hfree : (Node.spec s).DefectFree p.matcher?) {members : List Member}
    (htype : s.type = .enum members)
    (ih : ∀ a, .alternative a ∈ members → ∀ there,
      (checkNode p (.spec a) (some v) there true = .ok () ↔
        Conforms p.matcher? (.spec a) (some v))) :
    checkSpec p s (some v) here false = .ok () ↔ Conforms p.matcher? (.spec s) (some v) := by
  have hmembers : (Node.spec s).members = members := by rw [Node.members, htype]; rfl
  rw [checkSpec_enum _ _ _ _ htype, bind_unit_eq_ok_iff,
    and_iff_right (checkProperties_of_defectFree hfree),
    conforms_enumerated_iff htype, ← hmembers]
  exact checkEnum_eq_ok_iff hp hfree (hmembers ▸ ih)

theorem checkSpec_none_eq_ok_iff (hp : p.ReportsData)
    (hfree : (Node.spec s).DefectFree p.matcher?) {inEnum : Bool} :
    checkSpec p s none here inEnum = .ok () ↔ Conforms p.matcher? (.spec s) none := by
  have hdeclared : s.type ≠ .undeclared := fun h => hfree.not_defect (.requireType h)
  rw [checkSpec_none _ _ _ hdeclared, bind_unit_eq_ok_iff,
    and_iff_right (checkProperties_of_defectFree hfree),
    checkPresence_none_eq_ok_iff hp, conforms_absent_iff]

/-- The check of a specification, given those of what it holds. -/
theorem checkSpec_eq_ok_iff (hp : p.ReportsData) (hfree : (Node.spec s).DefectFree p.matcher?)
    {input : Option Json} {inEnum : Bool} (hin : inEnum = true → ¬(Node.spec s).IsEnum)
    (ih : ∀ child, (Node.spec s).Holds child → ∀ input there inEnum,
      (inEnum = true → ¬child.IsEnum) →
      (checkNode p child input there inEnum = .ok () ↔ Conforms p.matcher? child input)) :
    checkSpec p s input here inEnum = .ok () ↔ Conforms p.matcher? (.spec s) input := by
  cases input with
  | none => exact checkSpec_none_eq_ok_iff hp hfree
  | some v =>
    cases htype : s.type with
    | undeclared => exact absurd (.requireType htype) hfree.not_defect
    | malformed raw => exact absurd (.malformedType htype) hfree.not_defect
    | tag name =>
      exact checkSpec_tag_eq_ok_iff hp hfree htype fun child hc input there =>
        ih child hc input there false (by simp)
    | enum members =>
      have hout : inEnum = false := Bool.eq_false_iff.mpr fun h => hin h ⟨members, htype⟩
      rw [hout]
      refine checkSpec_enum_eq_ok_iff hp hfree htype fun a ha there => ?_
      have hmem : .alternative a ∈ (Node.spec s).members := by
        rw [Node.members, htype]
        exact ha
      exact ih (.spec a) (.alternative hmem) _ there true fun _ henum =>
        hfree.not_defect (.nestedEnum hmem henum)

end

/-- A check of a node without defects passes what conforms to the node, at
whatever path. -/
theorem checkNode_eq_ok_iff {p : Policy} (hp : p.ReportsData) {n : Node}
    (hfree : n.DefectFree p.matcher?) (input : Option Json) (here : Path) {inEnum : Bool}
    (hin : inEnum = true → ¬n.IsEnum) :
    checkNode p n input here inEnum = .ok () ↔ Conforms p.matcher? n input := by
  induction n using Node.holds_induction generalizing input here inEnum with
  | h n ih =>
    cases n with
    | tag name =>
      cases input with
      | none => exact iff_of_true rfl (.absentTag name)
      | some v => exact checkType_eq_ok_iff hp hfree
    | enum members =>
      have hout : inEnum = false := Bool.eq_false_iff.mpr fun h => hin h trivial
      rw [checkNode_enum, hout]
      refine checkEnum_eq_ok_iff hp (n := .enum members) hfree fun a ha there => ?_
      exact ih (.spec a) (.alternative ha) (hfree.of_holds (.alternative ha)) _ there
        fun _ henum => hfree.not_defect (.nestedEnum ha henum)
    | spec s =>
      rw [checkNode_spec]
      exact checkSpec_eq_ok_iff hp hfree hin fun child hc input there inEnum hin =>
        ih child hc (hfree.of_holds hc) input there hin

theorem Catalog.builtin_reportsData (matcher? : String → Option (String → Bool)) :
    (builtin.policy matcher?).ReportsData := by
  have h : ∀ code ∈ IssueCode.ofData, builtin.covers .data code = true := by decide
  exact h

theorem validateWith_eq_ok_iff {matcher? : String → Option (String → Bool)} {c : Catalog}
    {schema : Node} {input : Json} : validateWith matcher? c schema input = .ok () ↔
      check (c.policy matcher?) schema input = .ok () := by
  rw [validateWith_eq]
  cases check (c.policy matcher?) schema input <;> simp [Except.mapError]

/-- Under the built-in catalog a schema without defects has an extension for
every input, and accepts the input exactly if it conforms to that extension. -/
theorem accepted_iff_conforms_to_extension (matcher? : String → Option (String → Bool))
    (schema : Node) (input : Json) (h : schema.DefectFree matcher?) :
    ∃ extended, extendUnder Catalog.builtin schema input = .ok extended ∧
      (validateWith matcher? Catalog.builtin schema input = .ok () ↔
        Conforms matcher? extended (some input)) := by
  obtain ⟨extended, hext, hfree⟩ : ∃ extended,
      schema.extend (Catalog.builtin.policy matcher?) input Path.root = .ok extended ∧
        extended.DefectFree matcher? := h.extend
  refine ⟨extended, ?_, ?_⟩
  · have hreports : (Catalog.builtin.policy fun _ => none).reports =
        (Catalog.builtin.policy matcher?).reports := rfl
    rw [extendUnder_eq, extend, Node.extend_congr hreports, hext]
    rfl
  · rw [validateWith_eq_ok_iff, check, extend, hext]
    exact checkNode_eq_ok_iff (Catalog.builtin_reportsData matcher?) hfree _ _ (by simp)

/-- An object whose member `k` is the text `a` or an integer; with the text a
block adds the property `n`. -/
def addedOnText : Node :=
  .spec { Spec.ofTag "object" with
    properties := .declared
      [("k", .enum [.literal (.string "a"), .alternative (Spec.ofTag "integer")])]
    conditions :=
      [⟨"k", [⟨some .equal, some (.string "a"), some [("n", .tag "string")], none, none⟩]⟩] }

/-- The text `a` asks for a text at `n`: one is accepted, a null is not. -/
theorem addedOnText_accepts :
    addedOnText.DefectFree (fun _ => none) ∧
    (∃ extended,
      extendUnder Catalog.builtin addedOnText (.object [("n", .string "b"), ("k", .string "a")]) =
        .ok extended ∧
      Conforms (fun _ => none) extended
        (some (.object [("n", .string "b"), ("k", .string "a")]))) ∧
    ∃ extended,
      extendUnder Catalog.builtin addedOnText (.object [("n", .null), ("k", .string "a")]) =
        .ok extended ∧
      ¬Conforms (fun _ => none) extended
        (some (.object [("n", .null), ("k", .string "a")])) := by
  have hfree : addedOnText.DefectFree (fun _ => none) := (Node.isDefectFree_iff _).mp (by cbv)
  have haccepted : check (Catalog.builtin.policy fun _ => none) addedOnText
      (.object [("n", .string "b"), ("k", .string "a")]) = .ok () := by
    cbv
  have hrejected : check (Catalog.builtin.policy fun _ => none) addedOnText
      (.object [("n", .null), ("k", .string "a")]) =
      .error (dataIssue .typeof [.key "n"] {} [("type", "string")]) := by
    cbv
  obtain ⟨extended, hext, hiff⟩ := accepted_iff_conforms_to_extension (fun _ => none) addedOnText
    (.object [("n", .string "b"), ("k", .string "a")]) hfree
  obtain ⟨extended', hext', hiff'⟩ := accepted_iff_conforms_to_extension (fun _ => none) addedOnText
    (.object [("n", .null), ("k", .string "a")]) hfree
  refine ⟨hfree, ⟨extended, hext, hiff.mp (validateWith_eq_ok_iff.mpr haccepted)⟩,
    extended', hext', fun hc => ?_⟩
  have h := validateWith_eq_ok_iff.mp (hiff'.mpr hc)
  rw [hrejected] at h
  cases h

end Conform
