import Conform.Proofs.Check.Conformance
import Mathlib.Data.Nat.Find

/-!
# Trying the members of an enumeration

A literal that equals the value is looked for first, in the whole list.  Then
the members are tried in order, and the first that is not rejected decides: an
alternative that accepts the value, an alternative with an issue about the
schema, or a list, which is no member.  Only an issue about the input rejects
an alternative, so no such issue leaves the enumeration, and every issue about
the schema does.
-/
namespace Conform

/-- The member at a position is passed over: it is a literal, or an alternative
that the value does not fit. -/
inductive Member.Rejected (p : Policy) (input : Option Json) (here : Path) (k : Nat) :
    Member → Prop where
  | literal (value : Json) : Rejected p input here k (.literal value)
  | alternative {a : Spec} {i : Issue}
    (h : checkSpec p a input (here.child (.index k)) true = .error i) (hi : i.domain = .data) :
    Rejected p input here k (.alternative a)

/-- The trial comes to the member at a position: no literal equals the value and
every earlier member is rejected. -/
structure ComesUp (p : Policy) (members : List Member) (input : Option Json) (here : Path)
    (k : Nat) (member : Member) : Prop where
  literal : hasLiteral members input = false
  reached : members[k]? = some member
  before : ∀ (j : Nat) (earlier : Member), j < k → members[j]? = some earlier →
    earlier.Rejected p input here j

/-- What trying the members comes to. -/
inductive Trial (p : Policy) (members : List Member) (input : Option Json) (here : Path)
    (about : Annotations) : Except Issue Unit → Prop where
  | literal {value v : Json} (hv : input = some v) (h : .literal value ∈ members)
    (he : value.equal v = true) : Trial p members input here about (.ok ())
  | nested {k : Nat} {inner : List Member} (h : ComesUp p members input here k (.nested inner)) :
    Trial p members input here about (.error (schemaIssue .nestedEnum here about))
  | accepted {k : Nat} {a : Spec} (h : ComesUp p members input here k (.alternative a))
    (ha : checkSpec p a input (here.child (.index k)) true = .ok ()) :
    Trial p members input here about (.ok ())
  | stopped {k : Nat} {a : Spec} {i : Issue}
    (h : ComesUp p members input here k (.alternative a))
    (ha : checkSpec p a input (here.child (.index k)) true = .error i) (hi : i.domain = .schema) :
    Trial p members input here about (.error i)
  | exhausted (hl : hasLiteral members input = false)
    (h : ∀ (k : Nat) (member : Member), members[k]? = some member →
      member.Rejected p input here k) :
    Trial p members input here about
      (.error (dataIssue .enum here about [("enums", membersLabel members)]))

section
variable {p : Policy} {members : List Member} {input : Option Json} {here : Path}
  {about : Annotations} {label : String} {position k : Nat}

theorem Member.Rejected.tryMembers_eq {member : Member}
    (h : member.Rejected p input here position) (rest : List Member) :
    tryMembers p (member :: rest) input here about label position =
      tryMembers p rest input here about label (position + 1) := by
  cases h with
  | literal value => rw [tryMembers]
  | alternative h hi =>
    rw [tryMembers, h]
    exact if_pos hi

/-- Members that are rejected are passed over. -/
theorem tryMembers_eq_drop
    (h : ∀ (j : Nat) (member : Member), j < k → members[j]? = some member →
      member.Rejected p input here (position + j)) :
    tryMembers p members input here about label position =
      tryMembers p (members.drop k) input here about label (position + k) := by
  induction k generalizing members position with
  | zero => rfl
  | succ k ih =>
    cases members with
    | nil =>
      rw [List.drop_nil, tryMembers, tryMembers]
    | cons member rest =>
      have hmember := h 0 member (Nat.succ_pos k) rfl
      rw [Nat.add_zero] at hmember
      rw [hmember.tryMembers_eq, List.drop_succ_cons, ih, Nat.add_right_comm, Nat.add_assoc]
      intro j other hj hother
      have hrejected := h (j + 1) other (Nat.succ_lt_succ hj) hother
      rwa [← Nat.add_assoc, Nat.add_right_comm] at hrejected

/-- The members are tried until one is not rejected. -/
theorem comesUp_or_rejected (p : Policy) (here : Path) (hl : hasLiteral members input = false) :
    (∃ k member, ComesUp p members input here k member ∧ ¬ Member.Rejected p input here k member) ∨
      ∀ (k : Nat) (member : Member), members[k]? = some member →
        member.Rejected p input here k := by
  classical
  by_cases h : ∃ k, ∃ member, members[k]? = some member ∧ ¬ Member.Rejected p input here k member
  · obtain ⟨member, hm, hr⟩ := Nat.find_spec h
    refine .inl ⟨Nat.find h, member, ⟨hl, hm, fun j earlier hj he => ?_⟩, hr⟩
    by_contra hnot
    exact Nat.find_min h hj ⟨earlier, he, hnot⟩
  · refine .inr fun k member hm => ?_
    by_contra hnot
    exact h ⟨k, member, hm, hnot⟩

theorem checkEnum_of_noLiteral (hl : hasLiteral members input = false) :
    checkEnum p members input here false about =
      tryMembers p members input here about (membersLabel members) 0 := by
  unfold checkEnum checkEnumWith
  rw [hl]
  rfl

theorem ComesUp.checkEnum_eq {member : Member} (h : ComesUp p members input here k member) :
    checkEnum p members input here false about =
      tryMembers p (member :: members.drop (k + 1)) input here about (membersLabel members) k := by
  have hdrop : members.drop k = member :: members.drop (k + 1) := by
    obtain ⟨hk, rfl⟩ := List.getElem?_eq_some_iff.mp h.reached
    exact List.drop_eq_getElem_cons hk
  rw [checkEnum_of_noLiteral h.literal, tryMembers_eq_drop (k := k), Nat.zero_add, hdrop]
  intro j earlier hj he
  rw [Nat.zero_add]
  exact h.before j earlier hj he

/-- An issue about the schema that ends the trial of an alternative ends the
enumeration, whatever is reported. -/
theorem ComesUp.checkEnum_eq_error {a : Spec} {i : Issue}
    (h : ComesUp p members input here k (.alternative a))
    (ha : checkSpec p a input (here.child (.index k)) true = .error i) (hi : i.domain = .schema) :
    checkEnum p members input here false about = .error i := by
  have hdomain : i.domain ≠ .data := by
    rw [hi]
    exact Domain.noConfusion
  rw [h.checkEnum_eq, tryMembers, ha]
  exact if_neg hdomain

theorem Trial.checkEnum_eq (hnested : p.reports .schema .nestedEnum = true)
    (henum : p.reports .data .enum = true) {r : Except Issue Unit}
    (h : Trial p members input here about r) :
    checkEnum p members input here false about = r := by
  cases h with
  | literal hv h he =>
    have hl : hasLiteral members input = true := hasLiteral_iff.mpr ⟨_, _, hv, h, he⟩
    unfold checkEnum checkEnumWith
    rw [hl]
    rfl
  | nested h =>
    rw [h.checkEnum_eq, tryMembers, (p.raise_eq_error_iff _ _).mpr ⟨hnested, rfl⟩]
    rfl
  | accepted h ha =>
    rw [h.checkEnum_eq, tryMembers, ha]
    rfl
  | stopped h ha hi => exact h.checkEnum_eq_error ha hi
  | exhausted hl h =>
    rw [checkEnum_of_noLiteral hl, tryMembers_eq_drop (k := members.length), List.drop_length,
      tryMembers]
    · exact (p.raise_eq_error_iff _ _).mpr ⟨henum, rfl⟩
    · intro j member _ hm
      rw [Nat.zero_add]
      exact h j member hm

/-- The trial comes to something. -/
theorem exists_trial (p : Policy) (members : List Member) (input : Option Json) (here : Path)
    (about : Annotations) : ∃ r, Trial p members input here about r := by
  cases hl : hasLiteral members input with
  | true =>
    obtain ⟨value, v, hv, h, he⟩ := hasLiteral_iff.mp hl
    exact ⟨_, .literal hv h he⟩
  | false =>
    rcases comesUp_or_rejected p here hl with ⟨k, member, h, hr⟩ | h
    · cases member with
      | literal value => exact absurd (.literal value) hr
      | nested inner => exact ⟨_, .nested h⟩
      | alternative a =>
        cases ha : checkSpec p a input (here.child (.index k)) true with
        | ok _ => exact ⟨_, .accepted h ha⟩
        | error i =>
          cases hi : i.domain with
          | data => exact absurd (.alternative ha hi) hr
          | schema => exact ⟨_, .stopped h ha hi⟩
    · exact ⟨_, .exhausted hl h⟩

/-- Outside of other enumerations the check of an enumeration is the trial of its
members. -/
theorem checkEnum_eq_iff_trial (hnested : p.reports .schema .nestedEnum = true)
    (henum : p.reports .data .enum = true) {r : Except Issue Unit} :
    checkEnum p members input here false about = r ↔ Trial p members input here about r := by
  constructor
  · rintro rfl
    obtain ⟨r, h⟩ := exists_trial p members input here about
    rw [h.checkEnum_eq hnested henum]
    exact h
  · exact fun h => h.checkEnum_eq hnested henum

/-- Inside of another enumeration an enumeration is refused before its members
are looked at. -/
theorem checkEnum_inside (hnested : p.reports .schema .nestedEnum = true) :
    checkEnum p members input here true about = .error (schemaIssue .nestedEnum here about) := by
  unfold checkEnum checkEnumWith
  rw [(p.raise_eq_error_iff _ _).mpr ⟨hnested, rfl⟩]
  rfl

/-- The only issue about the input that an enumeration ends in is its own. -/
theorem checkEnum_eq_error_data {inEnum : Bool} {i : Issue}
    (hnested : p.reports .schema .nestedEnum = true) (henum : p.reports .data .enum = true)
    (h : checkEnum p members input here inEnum about = .error i) (hi : i.domain = .data) :
    i = dataIssue .enum here about [("enums", membersLabel members)] := by
  cases inEnum with
  | true =>
    cases h.symm.trans (checkEnum_inside hnested)
    cases hi
  | false =>
    cases (checkEnum_eq_iff_trial hnested henum).mp h with
    | nested => cases hi
    | stopped _ _ hschema => cases hi.symm.trans hschema
    | exhausted => rfl

end
end Conform
