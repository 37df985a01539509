import Conform.Proofs.Check.Parts
import Conform.Proofs.Check.Passing
import Conform.Proofs.Check.SchemaIssues
import Conform.Proofs.Check.Trials

/-!
# Visits

A check is a tree of visits: a visit of a value opens visits of its parts, each
after everything before it has passed, and a visit of an enumeration opens visits
of the alternatives that the trial comes to.  An issue ends the visit that raises
it.  If it is about the schema it ends every visit above as well; if it is about
the input it goes up to the next enumeration and no further.
-/
namespace Conform

/-- What a check of a node is called with. -/
structure Visit where
  node : Node
  input : Option Json
  here : Path
  inEnum : Bool

namespace Visit

def alternative (a : Spec) (input : Option Json) (here : Path) (k : Nat) : Visit :=
  ⟨.spec a, input, here.child (.index k), true⟩

def part (here : Path) (part : Part) : Visit :=
  ⟨part.node, part.value, here.child part.segment, false⟩

def run (p : Policy) (v : Visit) : Except Issue Unit :=
  checkNode p v.node v.input v.here v.inEnum

/-- In the course of one visit another begins: that of an alternative which the
trial comes to, or that of a part after everything before it has passed. -/
inductive Opens (p : Policy) : Visit → Visit → Prop where
  | member {members : List Member} {k : Nat} {a : Spec} {input : Option Json} {here : Path}
    (h : ComesUp p members input here k (.alternative a)) :
    Opens p ⟨.enum members, input, here, false⟩ (alternative a input here k)
  | enumerated {s a : Spec} {members : List Member} {k : Nat} {v : Json} {here : Path}
    (ht : s.type = .enum members)
    (hproperties : checkProperties p s.properties here s.annotations = .ok ())
    (h : ComesUp p members (some v) here k (.alternative a)) :
    Opens p ⟨.spec s, some v, here, false⟩ (alternative a (some v) here k)
  | part {s : Spec} {v : Json} {x : Part} {before after : List Part} {here : Path}
    {inEnum : Bool} (ht : s.HasTag v)
    (hproperties : checkProperties p s.properties here s.annotations = .ok ())
    (hcontent : checkContent p s v here = .ok ()) (hx : s.parts v = before ++ x :: after)
    (hbefore : ∀ y ∈ before, y.check p here = .ok ()) :
    Opens p ⟨.spec s, some v, here, inEnum⟩ (part here x)

/-- The issue is raised by the visit itself: at its place, or about a key of the
object there. -/
def Owns (v : Visit) (i : Issue) : Prop :=
  i.annotations = v.node.annotations ∧
    (i.path = v.here ∨ i.code = .unexpectedKey ∧ ∃ key, i.path = v.here.child (.key key))

end Visit

section
variable {p : Policy} {v w : Visit} {i : Issue}

/-- The check of a value that has its tag. -/
theorem checkSpec_eq_of_hasTag {s : Spec} {value : Json} {here : Path} {inEnum : Bool}
    (ht : s.HasTag value) (hvalue : value ≠ .null) :
    checkSpec p s (some value) here inEnum = (do
      checkProperties p s.properties here s.annotations
      checkContent p s value here
      forM (s.parts value) (Part.check p here)
      checkClosed p s value here) := by
  obtain ⟨name, tag, htype, hparse, hadmits⟩ := ht
  have hnull : (s.nullable && value.isNull) = false := by
    cases value with
    | null => exact absurd rfl hvalue
    | bool | number | string | array | object => exact Bool.and_false _
  rw [checkSpec_tag _ _ _ _ htype, hnull, checkTag_of_admits hparse hadmits,
    ← checkFacets_eq hadmits]
  rfl

theorem Spec.ne_null_of_parts {s : Spec} {value : Json} {x : Part} (h : x ∈ s.parts value) :
    value ≠ .null := by
  rintro rfl
  cases h

/-- An issue about the schema that ends an opened visit ends the visit that opens
it. -/
theorem Visit.Opens.run_eq (h : v.Opens p w) (hw : w.run p = .error i) (hi : i.domain = .schema) :
    v.run p = .error i := by
  unfold Visit.run at hw ⊢
  cases h with
  | member h =>
    rw [Visit.alternative, checkNode_spec] at hw
    rw [checkNode_enum]
    exact h.checkEnum_eq_error hw hi
  | enumerated ht hproperties h =>
    rw [Visit.alternative, checkNode_spec] at hw
    rw [checkNode_spec, checkSpec_enum _ _ _ _ ht, hproperties]
    exact h.checkEnum_eq_error hw hi
  | @part s value x before after here inEnum ht hproperties hcontent hx hbefore =>
    have hvalue : value ≠ .null := by
      refine Spec.ne_null_of_parts (s := s) (x := x) ?_
      rw [hx]
      exact List.mem_append_right _ (List.mem_cons_self ..)
    have hparts : forM (s.parts value) (Part.check p here) = .error i :=
      forM_eq_error_iff.mpr ⟨before, x, after, hx, hbefore, hw⟩
    rw [checkNode_spec, checkSpec_eq_of_hasTag ht hvalue, hproperties, hcontent, hparts]
    rfl

/-- No issue about the schema is lost on the way out. -/
theorem Visit.run_eq_of_reached (h : Relation.ReflTransGen (Visit.Opens p) v w)
    (hw : w.run p = .error i) (hi : i.domain = .schema) : v.run p = .error i := by
  induction h using Relation.ReflTransGen.head_induction_on with
  | refl => exact hw
  | head hstep _ ih => exact hstep.run_eq ih hi

/-- An issue is at the place of its visit or below. -/
theorem Raises.prefix_path {matcher? : String → Option (String → Bool)} {n : Node}
    {input : Option Json} {here : Path} {inEnum : Bool}
    (h : Raises matcher? n input here inEnum i) : here <+: i.path := by
  induction h with
  | unexpectedKey => exact List.prefix_append _ _
  | alternative _ _ _ ih => exact (List.prefix_append _ _).trans ih
  | item _ _ _ ih => exact (List.prefix_append _ _).trans ih
  | property _ _ _ ih => exact (List.prefix_append _ _).trans ih
  | properties | requireType | required | unknownType | malformedType | wrongType
  | unreadPattern | pattern | maxNotNumber | minNotNumber | vacuous | aboveMax | belowMin
  | outOfRange | insideEnum | nestedList | noMember => exact List.prefix_refl _

theorem Visit.Opens.prefix_here (h : v.Opens p w) : v.here <+: w.here := by
  cases h <;> exact List.prefix_append _ _

theorem Visit.prefix_here_of_reached (h : Relation.ReflTransGen (Visit.Opens p) v w) :
    v.here <+: w.here := by
  induction h with
  | refl => exact List.prefix_refl _
  | tail _ hstep ih => exact ih.trans hstep.prefix_here

/-- No issue about the input that ends a visit below an alternative is what the
enumeration ends in. -/
theorem checkEnum_ne_of_reached {members : List Member} {a : Spec} {k : Nat}
    {input : Option Json} {here : Path} {inEnum : Bool} {about : Annotations}
    (hnested : p.reports .schema .nestedEnum = true) (henum : p.reports .data .enum = true)
    (h : Relation.ReflTransGen (Visit.Opens p) (.alternative a input here k) w)
    (hw : w.run p = .error i) (hi : i.domain = .data) :
    checkEnum p members input here inEnum about ≠ .error i := by
  intro hcheck
  have hpath : i.path = here := by rw [checkEnum_eq_error_data hnested henum hcheck hi]; rfl
  have hbelow : here.child (.index k) <+: i.path :=
    (Visit.prefix_here_of_reached h).trans
      (checkNode_raises p w.node w.input w.here w.inEnum i hw).2.prefix_path
  have hlength := hbelow.length_le
  rw [hpath, Path.child, List.length_append, List.length_singleton] at hlength
  omega

theorem checkContent_stops {Q : Issue → Prop} {s : Spec} {value : Json} {here : Path}
    (h : ∀ j, j.annotations = s.annotations → j.path = here → Q j) :
    p.StopsWith (checkContent p s value here) Q := by
  have hsize (m : Measure) (size : Nat) :
      p.StopsWith (checkSize p m s.limits size here s.annotations) Q := by
    apply checkSize_stops <;> exact fun _ _ _ => h _ rfl rfl
  cases value with
  | string text =>
    refine (checkPattern_stops ?_ ?_).bind fun _ _ => hsize .length _
    · exact fun _ _ _ => h _ rfl rfl
    · exact fun _ _ _ _ _ => h _ rfl rfl
  | array xs => exact hsize .items _
  | number n => exact checkRange_stops fun _ _ _ _ _ => h _ rfl rfl
  | null | bool | object => exact Policy.stopsWith_pure _

/-- The visit owns the issue, or opens a visit that ends in it. -/
def Visit.Accounts (p : Policy) (v : Visit) (i : Issue) : Prop :=
  v.Owns i ∨ ∃ w, v.Opens p w ∧ w.run p = .error i

theorem Visit.accounts_of_enum {n : Node} {members : List Member} {input : Option Json}
    {here : Path} {inEnum : Bool} (hnested : p.reports .schema .nestedEnum = true)
    (henum : p.reports .data .enum = true)
    (hopens : ∀ k a, ComesUp p members input here k (.alternative a) →
      Visit.Opens p ⟨n, input, here, false⟩ (.alternative a input here k))
    (h : checkEnum p members input here inEnum n.annotations = .error i) :
    Visit.Accounts p ⟨n, input, here, inEnum⟩ i := by
  cases inEnum with
  | true =>
    cases h.symm.trans (checkEnum_inside hnested)
    exact .inl ⟨rfl, .inl rfl⟩
  | false =>
    cases (checkEnum_eq_iff_trial hnested henum).mp h with
    | nested | exhausted => exact .inl ⟨rfl, .inl rfl⟩
    | stopped hcomes ha =>
      refine .inr ⟨_, hopens _ _ hcomes, ?_⟩
      rw [Visit.run, Visit.alternative, checkNode_spec]
      exact ha

theorem Visit.accounts_of_spec {s : Spec} {input : Option Json} {here : Path} {inEnum : Bool}
    (hnested : p.reports .schema .nestedEnum = true) (henum : p.reports .data .enum = true)
    (h : checkSpec p s input here inEnum = .error i) :
    Visit.Accounts p ⟨.spec s, input, here, inEnum⟩ i := by
  -- Whatever is raised for the specification itself is owned by its visit.
  have hself {j : Issue} (ha : j.annotations = s.annotations) (hp : j.path = here) :
      Visit.Accounts p ⟨.spec s, input, here, inEnum⟩ j := .inl ⟨ha, .inl hp⟩
  have hstop {α : Type} {x : Except Issue α} (hx : p.StopsWith x (Visit.Accounts p _))
      (hi : x = .error i) : Visit.Accounts p ⟨.spec s, input, here, inEnum⟩ i := (hx i hi).2
  have hproperties : p.StopsWith (checkProperties p s.properties here s.annotations)
      (Visit.Accounts p ⟨.spec s, input, here, inEnum⟩) :=
    checkProperties_stops fun _ _ => hself rfl rfl
  by_cases hu : s.type = .undeclared
  · rw [checkSpec_undeclared _ _ _ _ hu] at h
    exact hstop (hproperties.bind fun _ _ => Policy.stopsWith_raise (hself rfl rfl)) h
  cases input with
  | none =>
    rw [checkSpec_none _ _ _ hu] at h
    exact hstop (hproperties.bind fun _ _ => checkPresence_stops fun _ _ _ => hself rfl rfl) h
  | some value =>
    cases ht : s.type with
    | undeclared => exact absurd ht hu
    | malformed raw =>
      rw [checkSpec_malformed _ _ _ _ ht] at h
      refine hstop (hproperties.bind fun _ _ => ?_) h
      split
      · exact Policy.stopsWith_pure _
      · exact Policy.stopsWith_raise (hself rfl rfl)
    | enum members =>
      rw [checkSpec_enum _ _ _ _ ht] at h
      rcases bind_eq_error_iff.mp h with h | ⟨_, hok, h⟩
      · exact hstop hproperties h
      · exact Visit.accounts_of_enum hnested henum (fun _ _ => .enumerated ht hok) h
    | tag name =>
      rw [checkSpec_tag _ _ _ _ ht] at h
      rcases bind_eq_error_iff.mp h with h | ⟨_, hok, h⟩
      · exact hstop hproperties h
      split at h
      · cases h
      rcases bind_eq_error_iff.mp h with h | ⟨found, htag, h⟩
      · exact hstop (checkTag_stops (fun _ => hself rfl rfl) fun _ _ _ => hself rfl rfl) h
      cases found with
      | none => cases h
      | some tag =>
        obtain ⟨hparse, hv⟩ := checkTag_eq_some htag
        change checkFacets p s tag value here = .error i at h
        rw [checkFacets_eq hv] at h
        rcases bind_eq_error_iff.mp h with h | ⟨_, hcontent, h⟩
        · exact hstop (checkContent_stops fun _ => hself) h
        rcases bind_eq_error_iff.mp h with h | ⟨_, _, h⟩
        · obtain ⟨before, x, after, hx, hbefore, hcheck⟩ := forM_eq_error_iff.mp h
          exact .inr ⟨_, .part ⟨name, tag, ht, hparse, hv⟩ hok hcontent hx hbefore, hcheck⟩
        · refine hstop ?_ h
          unfold checkClosed
          split
          · exact checkUnexpected_stops fun key _ _ => .inl ⟨rfl, .inr ⟨rfl, key, rfl⟩⟩
          · exact Policy.stopsWith_pure _

/-- A visit that stops owns the issue or opens a visit that ends in it. -/
theorem Visit.accounts (hnested : p.reports .schema .nestedEnum = true)
    (henum : p.reports .data .enum = true) (h : v.run p = .error i) : v.Accounts p i := by
  obtain ⟨node, input, here, inEnum⟩ := v
  unfold Visit.run at h
  cases node with
  | tag name =>
    cases input with
    | none => cases h
    | some value =>
      rcases bind_eq_error_iff.mp h with h | ⟨_, _, h⟩
      · exact (checkTag_stops (Q := Visit.Accounts p _) (fun _ => .inl ⟨rfl, .inl rfl⟩)
          (fun _ _ _ => .inl ⟨rfl, .inl rfl⟩) i h).2
      · cases h
  | enum members =>
    rw [checkNode_enum] at h
    exact Visit.accounts_of_enum hnested henum (fun _ _ => .member) h
  | spec s =>
    rw [checkNode_spec] at h
    exact Visit.accounts_of_spec hnested henum h

theorem Visit.Opens.holds (h : v.Opens p w) : v.node.Holds w.node := by
  cases h with
  | member h => exact .alternative (List.mem_of_getElem? h.reached)
  | enumerated ht _ h =>
    apply Node.Holds.alternative
    rw [Node.members, ht]
    exact List.mem_of_getElem? h.reached
  | @part s value x before after here inEnum _ _ _ hx =>
    apply Spec.holds_of_mem_parts (v := value)
    rw [hx]
    exact List.mem_append_right _ (List.mem_cons_self ..)

/-- The issue that a visit ends in is raised by a visit that is reached from it. -/
theorem Visit.exists_owner (hnested : p.reports .schema .nestedEnum = true)
    (henum : p.reports .data .enum = true) (h : v.run p = .error i) :
    ∃ w, Relation.ReflTransGen (Visit.Opens p) v w ∧ w.Owns i ∧ w.run p = .error i := by
  generalize hn : v.node = n
  induction n using Node.holds_induction generalizing v with
  | h n ih =>
    rcases Visit.accounts hnested henum h with howns | ⟨w, hopens, hw⟩
    · exact ⟨v, .refl, howns, h⟩
    · obtain ⟨u, hu, howner⟩ := ih w.node (hn ▸ hopens.holds) hw rfl
      exact ⟨u, .head hopens hu, howner⟩

end

/-- How a policy deals with the trial of alternatives. -/
structure Policy.Isolates (p : Policy) : Prop where
  /-- Outside of other enumerations the members are tried. -/
  outside (members : List Member) (input : Option Json) (here : Path) (about : Annotations)
    (r : Except Issue Unit) :
    checkEnum p members input here false about = r ↔ Trial p members input here about r
  inside (members : List Member) (input : Option Json) (here : Path) (about : Annotations) :
    checkEnum p members input here true about = .error (schemaIssue .nestedEnum here about)
  /-- No issue about the input comes out of an alternative, from whatever depth. -/
  data (members : List Member) (input : Option Json) (here : Path) (about : Annotations)
    (inEnum : Bool) (k : Nat) (a : Spec) (w : Visit) (i : Issue)
    (hw : Relation.ReflTransGen (Visit.Opens p) (.alternative a input here k) w)
    (h : w.run p = .error i) (hi : i.domain = .data) :
    checkEnum p members input here inEnum about ≠ .error i
  /-- Every issue about the schema does that is met with during a trial. -/
  schema (members : List Member) (input : Option Json) (here : Path) (about : Annotations)
    (k : Nat) (a : Spec) (w : Visit) (i : Issue)
    (ha : ComesUp p members input here k (.alternative a))
    (hw : Relation.ReflTransGen (Visit.Opens p) (.alternative a input here k) w)
    (h : w.run p = .error i) (hi : i.domain = .schema) :
    checkEnum p members input here false about = .error i
  /-- It ends the whole check of an input. -/
  ends (node extended : Node) (input : Json) (w : Visit) (i : Issue)
    (he : extend p node input = .ok extended)
    (hw : Relation.ReflTransGen (Visit.Opens p) ⟨extended, some input, Path.root, false⟩ w)
    (h : w.run p = .error i) (hi : i.domain = .schema) : check p node input = .error i
  /-- Nothing ends a visit but what is raised in one that is reached from it. -/
  owner (v : Visit) (i : Issue) (h : v.run p = .error i) :
    ∃ w, Relation.ReflTransGen (Visit.Opens p) v w ∧ w.Owns i ∧ w.run p = .error i

/-- Under a catalog with templates for nested enumerations and for values that
fit no member, whatever other templates it has, trials are isolated. -/
theorem catalog_isolates_trials (matcher? : String → Option (String → Bool)) (c : Catalog)
    (hnested : c.covers .schema .nestedEnum = true) (henum : c.covers .data .enum = true) :
    (c.policy matcher?).Isolates where
  outside _ _ _ _ _ := checkEnum_eq_iff_trial hnested henum
  inside _ _ _ _ := checkEnum_inside hnested
  data _ _ _ _ _ _ _ _ _ hw h hi := checkEnum_ne_of_reached hnested henum hw h hi
  schema members input here about k a w i ha hw h hi := by
    have hrun := Visit.run_eq_of_reached hw h hi
    rw [Visit.run, Visit.alternative, checkNode_spec] at hrun
    exact ha.checkEnum_eq_error hrun hi
  ends node extended input w i he hw h hi := by
    have hrun := Visit.run_eq_of_reached hw h hi
    rw [check, he]
    exact hrun
  owner _ _ h := Visit.exists_owner hnested henum h

/-- Null, a list of values of an unknown type, a list that is no member, and the
literal `x`. -/
def mixedMembers : List Member :=
  [.alternative (Spec.ofTag "null"),
    .alternative { Spec.ofTag "array" with items := .eachTag "date" }, .nested [],
    .literal (.string "x")]

/-- The literal is found behind the defects.  For a list of texts the unknown type
of its items is reported, not the list among the members and not that the list
of texts is no null. -/
theorem mixedMembers_isolated :
    Catalog.builtin.covers .schema .nestedEnum = true ∧
    Catalog.builtin.covers .data .enum = true ∧
    checkEnum (Catalog.builtin.policy fun _ => none) mixedMembers (some (.string "x")) Path.root
      false {} = .ok () ∧
    checkEnum (Catalog.builtin.policy fun _ => none) mixedMembers (some (.array [.string "y"]))
      Path.root false {} = .error (schemaIssue .typeof [.index 1, .index 0] {}
        [("type", "date"), ("allowedTypes", TypeTag.listing)]) := by
  have hnested : Catalog.builtin.covers .schema .nestedEnum = true := by decide
  have henum : Catalog.builtin.covers .data .enum = true := by decide
  have hisolates := catalog_isolates_trials (fun _ => none) Catalog.builtin hnested henum
  refine ⟨hnested, henum, ?_, ?_⟩
  · have hmember : .literal (.string "x") ∈ mixedMembers := by simp [mixedMembers]
    apply (hisolates.outside _ _ _ _ _).mpr
    exact .literal rfl hmember (by cbv)
  · have hnull : (Member.alternative (Spec.ofTag "null")).Rejected
        (Catalog.builtin.policy fun _ => none) (some (.array [.string "y"])) Path.root 0 := by
      refine .alternative (i := dataIssue .typeof [.index 0] {} [("type", "null")]) ?_ rfl
      cbv
    have hcomes : ComesUp (Catalog.builtin.policy fun _ => none) mixedMembers
        (some (.array [.string "y"])) Path.root 1
        (.alternative { Spec.ofTag "array" with items := .eachTag "date" }) := by
      refine ⟨by cbv, rfl, fun j earlier hj he => ?_⟩
      obtain rfl : j = 0 := by omega
      cases he
      exact hnull
    have hopens : Visit.Opens (Catalog.builtin.policy fun _ => none)
        (.alternative { Spec.ofTag "array" with items := .eachTag "date" }
          (some (.array [.string "y"])) Path.root 1)
        (.part [.index 1] ⟨.index 0, .tag "date", some (.string "y")⟩) := by
      have htag : ({ Spec.ofTag "array" with items := .eachTag "date" } : Spec).HasTag
          (.array [.string "y"]) := ⟨"array", .array, rfl, by decide, rfl⟩
      exact .part htag rfl (by cbv) (List.nil_append _).symm (List.forall_mem_nil _)
    refine hisolates.schema _ _ _ _ _ _ _ _ hcomes (.single hopens) ?_ rfl
    cbv

end Conform
