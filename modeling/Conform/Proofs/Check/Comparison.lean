import Conform.Proofs.Check.Parts
import Conform.Proofs.Check.Passing
import Conform.Proofs.Json.Alignment
import Conform.Proofs.Runs

/-!
# Two checks side by side

A node is checked twice, under two policies, against two values and at two
paths.  A comparison says how these belong together; it has to be a relation
between runs that holds of each issue as it is raised, of the keys left over in
an object and of the trial of an alternative.  Then it holds of both checks.
-/
namespace Conform

/-- The codes of the issues that a check or an extension raises in a domain. -/
def Domain.raised : Domain → List IssueCode
  | schema => [.typeof, .requireType, .properties, .maxLength, .minLength, .maxItems, .minItems,
      .minLengthMinimum, .minItemsMinimum, .invalidPath, .nestedEnum, .pattern]
  | data => IssueCode.ofData

section
variable {ε ε' : Type} [Complaint ε] [Complaint ε']

/-- Go on if an alternative has been rejected. -/
def tryNext (trial rest : Except ε Unit) : Except ε Unit :=
  match trial with
  | .ok () => .ok ()
  | .error i => if Complaint.domain i = .data then rest else .error i

theorem tryMembers_alternative {p : Policy} {a : Spec} {rest : List Member}
    {input : Option Json} {here : Path} {about : Annotations} {label : String} {k : Nat} :
    (tryMembers p (.alternative a :: rest) input here about label k : Except ε Unit) =
      tryNext (checkSpec p a input (here.child (.index k)) true)
        (tryMembers p rest input here about label (k + 1)) := by
  rw [tryMembers]
  rfl

/-- Trials that end alike go on, or not, in the same way. -/
theorem Alike.tryNext {S : ε → ε' → Prop}
    (hS : ∀ i j, S i j → Complaint.domain i = Complaint.domain j) {x rest : Except ε Unit}
    {y rest' : Except ε' Unit} (h : Alike S x y) (hrest : Alike S rest rest') :
    Alike S (Conform.tryNext x rest) (Conform.tryNext y rest') := by
  cases h with
  | ok _ => exact .ok ()
  | @error i j h =>
    unfold Conform.tryNext
    dsimp only
    rw [hS i j h]
    split
    · exact hrest
    · exact .error h

end

/-- What belongs together in two checks, and why their runs stay related. -/
structure Comparison (ε ε' : Type) [Complaint ε] [Complaint ε'] extends RunRelation ε ε' where
  left : Policy
  right : Policy
  values : Json → Json → Prop
  places : Path → Path → Prop
  /-- The nodes that are checked, inside of an enumeration or not. -/
  nodes : Node → Bool → Prop
  matcher? : left.matcher? = right.matcher?
  aligned : ∀ {v w : Json}, values v w → v.Aligned values w
  literal : ∀ {v w : Json}, values v w → ∀ l : Json, l.equal v = l.equal w
  child : ∀ {here there : Path}, places here there → ∀ s : Segment,
    places (here.child s) (there.child s)
  part : ∀ {n m : Node} {inEnum : Bool}, nodes n inEnum → n.Holds m → nodes m false
  alternative : ∀ {n : Node} {a : Spec} {inEnum : Bool}, nodes n inEnum →
    .alternative a ∈ n.members → nodes (.spec a) true
  raise : ∀ {domain : Domain} {code : IssueCode} {here there : Path}
    {params : List (String × String)} {about : Annotations}, code ∈ domain.raised →
    places here there → rel (left.raise ⟨domain, code, here, params, about⟩)
      (right.raise ⟨domain, code, there, params, about⟩)
  closed : ∀ {s : Spec} {v w : Json} {here there : Path}, values v w → places here there →
    rel (checkClosed left s v here) (checkClosed right s w there)
  trial : ∀ {a : Spec} {input input' : Option Json} {here there : Path}
    {rest : Except ε Unit} {rest' : Except ε' Unit}, nodes (.spec a) true →
    Option.Rel values input input' → places here there →
    rel (checkSpec left a input here true) (checkSpec right a input' there true) →
    rel rest rest' → rel (tryNext (checkSpec left a input here true) rest)
      (tryNext (checkSpec right a input' there true) rest')

/-- The parts at one place. -/
structure Part.Aligned (V : Json → Json → Prop) (x y : Part) : Prop where
  segment : x.segment = y.segment
  node : x.node = y.node
  value : Option.Rel V x.value y.value

theorem Items.parts_aligned {V : Json → Json → Prop} {xs ys : List Json} (items : Items)
    (h : List.Forall₂ V xs ys) :
    List.Forall₂ (Part.Aligned V) (items.parts xs) (items.parts ys) := by
  -- The same node stands at every position.
  have hsame (node : Node) (k : Nat) : List.Forall₂ (Part.Aligned V)
      ((xs.zipIdx k).map fun e => ⟨.index e.2, node, some e.1⟩)
      ((ys.zipIdx k).map fun e => ⟨.index e.2, node, some e.1⟩) := by
    induction h generalizing k with
    | nil => exact .nil
    | cons hxy _ ih => exact .cons ⟨rfl, rfl, .some hxy⟩ (ih (k + 1))
  cases items with
  | unconstrained => exact .nil
  | each node => exact hsame node 0
  | eachTag name => exact hsame (.tag name) 0
  | positional nodes =>
    clear hsame
    simp only [parts]
    generalize 0 = k
    induction h generalizing nodes k with
    | nil => simp
    | cons hxy _ ih =>
      cases nodes with
      | nil => exact .nil
      | cons node nodes => exact .cons ⟨rfl, rfl, .some hxy⟩ (ih nodes (k + 1))

theorem Spec.parts_aligned {V : Json → Json → Prop} {v w : Json} (s : Spec)
    (h : v.Aligned V w) : List.Forall₂ (Part.Aligned V) (s.parts v) (s.parts w) := by
  cases h with
  | array h => exact s.items.parts_aligned h
  | object h =>
    simp only [parts, List.forall₂_map_left_iff, List.forall₂_map_right_iff]
    exact List.forall₂_same.mpr fun e _ => ⟨rfl, rfl, h e.1⟩
  | null | bool | number | string => exact .nil

namespace Comparison
variable {ε ε' : Type} [Complaint ε] [Complaint ε'] (c : Comparison ε ε') {here there : Path}
  {about : Annotations} {v w : Json} {s : Spec}

/-- However the check comes to the node, both runs are related. -/
def Related (n : Node) : Prop :=
  ∀ {input input' : Option Json} {here there : Path} {inEnum : Bool}, c.nodes n inEnum →
    Option.Rel c.values input input' → c.places here there →
    c.rel (checkNode c.left n input here inEnum) (checkNode c.right n input' there inEnum)

theorem checkTag_rel (hv : c.values v w) (hp : c.places here there) (name : String) :
    c.rel (checkTag c.left name v here about) (checkTag c.right name w there about) := by
  unfold checkTag
  cases TypeTag.parse? name with
  | none => exact c.bind (c.raise (by decide) hp) fun _ _ _ => c.ok none
  | some tag =>
    dsimp only
    rw [(c.aligned hv).admits_eq tag]
    split
    · exact c.ok (some tag)
    · exact c.bind (c.raise (by decide) hp) fun _ _ _ => c.ok none

theorem checkPattern_rel (hp : c.places here there) (pattern : Option String) (text : String) :
    c.rel (checkPattern c.left pattern text here about)
      (checkPattern c.right pattern text there about) := by
  cases pattern with
  | none => exact c.ok ()
  | some source =>
    unfold checkPattern
    rw [c.matcher?]
    dsimp only
    cases c.right.matcher? source with
    | none => exact c.raise (by decide) hp
    | some accepts =>
      dsimp only
      split
      · exact c.ok ()
      · exact c.raise (by decide) hp

theorem readBound_rel (hp : c.places here there) {code : IssueCode}
    (hcode : code ∈ Domain.schema.raised) (bound : Option Json) :
    c.rel (readBound c.left code bound here about) (readBound c.right code bound there about) := by
  cases bound with
  | none => exact c.ok none
  | some raw =>
    cases raw with
    | number n => exact c.ok (some n)
    | null | bool | string | array | object =>
      exact c.bind (c.raise hcode hp) fun _ _ _ => c.ok none

theorem checkVacuous_rel (hp : c.places here there) (m : Measure) (bound : Option Number) :
    c.rel (checkVacuous c.left m bound here about) (checkVacuous c.right m bound there about) := by
  cases bound with
  | none => exact c.ok ()
  | some n =>
    unfold checkVacuous
    dsimp only
    split
    · exact c.ok ()
    · exact c.raise (by cases m <;> decide) hp

theorem checkBound_rel (hp : c.places here there) {code : IssueCode}
    (hcode : code ∈ Domain.data.raised) (violates : Ordering → Bool) (n : Number)
    (bound : Option Number) : c.rel (checkBound c.left code violates n bound here about)
      (checkBound c.right code violates n bound there about) := by
  cases bound with
  | none => exact c.ok ()
  | some b =>
    unfold checkBound
    dsimp only
    split
    · exact c.raise hcode hp
    · exact c.ok ()

theorem checkSize_rel (hp : c.places here there) (m : Measure) (l : Limits) (size : Nat) :
    c.rel (checkSize c.left m l size here about) (checkSize c.right m l size there about) := by
  refine c.bind (c.readBound_rel hp (by cases m <;> decide) _) fun max _ _ => ?_
  refine c.bind (c.readBound_rel hp (by cases m <;> decide) _) fun min _ _ => ?_
  refine c.bind (c.checkVacuous_rel hp m min) fun _ _ _ => ?_
  refine c.bind (c.checkBound_rel hp (by cases m <;> decide) _ _ max) fun _ _ _ => ?_
  exact c.checkBound_rel hp (by cases m <;> decide) _ _ min

theorem checkRange_rel (hp : c.places here there) (l : Limits) (n : Number) :
    c.rel (checkRange c.left l n here about) (checkRange c.right l n there about) := by
  refine c.bind (c.checkBound_rel hp (by decide) _ n _) fun _ _ _ => ?_
  refine c.bind (c.checkBound_rel hp (by decide) _ n _) fun _ _ _ => ?_
  refine c.bind (c.checkBound_rel hp (by decide) _ n _) fun _ _ _ => ?_
  exact c.checkBound_rel hp (by decide) _ n _

theorem checkContent_rel (hv : c.values v w) (hp : c.places here there) (s : Spec) :
    c.rel (checkContent c.left s v here) (checkContent c.right s w there) := by
  cases c.aligned hv with
  | string text => exact c.bind (c.checkPattern_rel hp _ text) fun _ _ _ => c.checkSize_rel hp _ _ _
  | array h =>
    simp only [checkContent, h.length_eq]
    exact c.checkSize_rel hp _ _ _
  | number n => exact c.checkRange_rel hp _ n
  | null | bool | object => exact c.ok ()

theorem checkProperties_rel (hp : c.places here there) (properties : Properties) :
    c.rel (checkProperties c.left properties here about)
      (checkProperties c.right properties there about) := by
  cases properties with
  | malformed raw => exact c.raise (by decide) hp
  | undeclared | declared => exact c.ok ()

theorem checkPresence_rel (hp : c.places here there) (required : Bool) :
    c.rel (checkPresence c.left required none here about)
      (checkPresence c.right required none there about) := by
  unfold checkPresence
  split
  · exact c.raise (by decide) hp
  · exact c.ok ()

/-- The checks of all parts, given those of each. -/
theorem parts_rel {inEnum : Bool} (hs : c.nodes (.spec s) inEnum) (hv : c.values v w)
    (hp : c.places here there) (ih : ∀ child, (Node.spec s).Holds child → c.Related child) :
    c.rel (forM (s.parts v) (Part.check c.left here))
      (forM (s.parts w) (Part.check c.right there)) := by
  have hheld : List.Forall₂ (fun x y => (Node.spec s).Holds x.node ∧ Part.Aligned c.values x y)
      (s.parts v) (s.parts w) :=
    (List.forall₂_and_left _ _).mpr ⟨fun _ hx => Spec.holds_of_mem_parts hx,
      s.parts_aligned (c.aligned hv)⟩
  refine c.forM_rel (hheld.imp ?_)
  rintro ⟨segment, node, value⟩ ⟨_, _, value'⟩ ⟨hholds, rfl, rfl, hvalue⟩
  exact ih node hholds (c.part hs hholds) hvalue (c.child hp segment)

/-- The members are tried side by side. -/
theorem tryMembers_rel {input input' : Option Json} {members : List Member} {label : String}
    {k : Nat} (hi : Option.Rel c.values input input') (hp : c.places here there)
    (ha : ∀ a, .alternative a ∈ members →
      c.nodes (.spec a) true ∧ ∀ {here there : Path}, c.places here there →
        c.rel (checkSpec c.left a input here true) (checkSpec c.right a input' there true)) :
    c.rel (tryMembers c.left members input here about label k)
      (tryMembers c.right members input' there about label k) := by
  induction members generalizing k with
  | nil =>
    rw [tryMembers, tryMembers]
    exact c.raise (by decide) hp
  | cons member rest ih =>
    have hrest := ih (k := k + 1) fun a h => ha a (List.mem_cons_of_mem _ h)
    cases member with
    | literal value =>
      rw [tryMembers, tryMembers]
      exact hrest
    | nested inner =>
      rw [tryMembers, tryMembers]
      exact c.bind (c.raise (by decide) hp) fun _ _ _ => hrest
    | alternative a =>
      obtain ⟨hnode, hcheck⟩ := ha a (List.mem_cons_self ..)
      rw [tryMembers_alternative, tryMembers_alternative]
      exact c.trial hnode hi (c.child hp (.index k)) (hcheck (c.child hp (.index k))) hrest

theorem hasLiteral_eq {input input' : Option Json} (h : Option.Rel c.values input input')
    (members : List Member) : hasLiteral members input = hasLiteral members input' := by
  cases h with
  | none => rfl
  | some hv =>
    simp only [hasLiteral]
    congr 1
    funext member
    cases member with
    | literal l => exact c.literal hv l
    | alternative | nested => rfl

theorem checkEnum_rel {input input' : Option Json} {n : Node} {inEnum : Bool}
    (hn : c.nodes n inEnum) (hi : Option.Rel c.values input input') (hp : c.places here there)
    (ih : ∀ child, n.Holds child → c.Related child) :
    c.rel (checkEnum c.left n.members input here inEnum about)
      (checkEnum c.right n.members input' there inEnum about) := by
  have htry : c.rel
      (if hasLiteral n.members input then return
        else tryMembers c.left n.members input here about (membersLabel n.members) 0)
      (if hasLiteral n.members input' then return
        else tryMembers c.right n.members input' there about (membersLabel n.members) 0) := by
    rw [c.hasLiteral_eq hi]
    split
    · exact c.ok ()
    · refine c.tryMembers_rel hi hp fun a ha => ⟨c.alternative hn ha, fun hp => ?_⟩
      have hcheck := ih (.spec a) (.alternative ha) (c.alternative hn ha) hi hp
      rwa [checkNode_spec, checkNode_spec] at hcheck
  unfold checkEnum checkEnumWith
  cases inEnum with
  | false => exact htry
  | true => exact c.bind (c.raise (by decide) hp) fun _ _ _ => htry

theorem checkSpec_rel {input input' : Option Json} {inEnum : Bool}
    (hs : c.nodes (.spec s) inEnum) (hi : Option.Rel c.values input input')
    (hp : c.places here there) (ih : ∀ child, (Node.spec s).Holds child → c.Related child) :
    c.rel (checkSpec c.left s input here inEnum) (checkSpec c.right s input' there inEnum) := by
  by_cases hu : s.type = .undeclared
  · rw [checkSpec_undeclared _ _ _ _ hu, checkSpec_undeclared _ _ _ _ hu]
    exact c.bind (c.checkProperties_rel hp _) fun _ _ _ => c.raise (by decide) hp
  cases hi with
  | none =>
    rw [checkSpec_none _ _ _ hu, checkSpec_none _ _ _ hu]
    exact c.bind (c.checkProperties_rel hp _) fun _ _ _ => c.checkPresence_rel hp _
  | @some v w hv =>
    have hnull : v.isNull = w.isNull := (c.aligned hv).isNull_eq
    cases ht : s.type with
    | undeclared => exact absurd ht hu
    | enum members =>
      have hmembers : (Node.spec s).members = members := by rw [Node.members, ht]; rfl
      rw [checkSpec_enum _ _ _ _ ht, checkSpec_enum _ _ _ _ ht, ← hmembers]
      exact c.bind (c.checkProperties_rel hp _) fun _ _ _ =>
        c.checkEnum_rel hs (.some hv) hp ih
    | malformed raw =>
      rw [checkSpec_malformed _ _ _ _ ht, checkSpec_malformed _ _ _ _ ht, hnull]
      refine c.bind (c.checkProperties_rel hp _) fun _ _ _ => ?_
      split
      · exact c.ok ()
      · exact c.raise (by decide) hp
    | tag name =>
      rw [checkSpec_tag _ _ _ _ ht, checkSpec_tag _ _ _ _ ht, hnull]
      refine c.bind (c.checkProperties_rel hp _) fun _ _ _ => ?_
      split
      · exact c.ok ()
      refine c.bind (c.checkTag_rel hv hp name) fun found hl hr => ?_
      cases found with
      | none => exact c.ok ()
      | some tag =>
        dsimp only
        rw [checkFacets_eq (checkTag_eq_some hl).2, checkFacets_eq (checkTag_eq_some hr).2]
        refine c.bind (c.checkContent_rel hv hp s) fun _ _ _ => ?_
        exact c.bind (c.parts_rel hs hv hp ih) fun _ _ _ => c.closed hv hp

/-- The comparison holds of the checks of every node. -/
theorem related (n : Node) : c.Related n := by
  induction n using Node.holds_induction with
  | h n ih =>
    intro input input' here there inEnum hn hi hp
    cases n with
    | tag name =>
      cases hi with
      | none => exact c.ok ()
      | some hv => exact c.bind (c.checkTag_rel hv hp name) fun _ _ _ => c.ok ()
    | enum members =>
      rw [checkNode_enum, checkNode_enum]
      exact c.checkEnum_rel hn hi hp ih
    | spec s =>
      rw [checkNode_spec, checkNode_spec]
      exact c.checkSpec_rel hn hi hp ih

end Comparison

section
variable {ε ε' : Type} [Complaint ε] [Complaint ε']

theorem RunRelation.checkKeys_rel (R : RunRelation ε ε') {p q : Policy} {here there : Path}
    {about : Annotations} (h : ∀ key, R.rel
      (p.raise (dataIssue .unexpectedKey (here.child (.key key)) about))
      (q.raise (dataIssue .unexpectedKey (there.child (.key key)) about)))
    (declared : Table Node) (keys : List String) :
    R.rel (checkKeys p declared here about keys) (checkKeys q declared there about keys) := by
  induction keys with
  | nil => exact R.ok ()
  | cons key rest ih =>
    unfold checkKeys
    cases declared.contains key with
    | true => exact ih
    | false => exact R.bind (h key) fun _ _ _ => ih

/-- The keys of a value are left over in the same way wherever it is. -/
theorem RunRelation.checkClosed_rel (R : RunRelation ε ε') {p q : Policy} {here there : Path}
    {s : Spec} (h : ∀ key, R.rel
      (p.raise (dataIssue .unexpectedKey (here.child (.key key)) s.annotations))
      (q.raise (dataIssue .unexpectedKey (there.child (.key key)) s.annotations))) (v : Json) :
    R.rel (checkClosed p s v here) (checkClosed q s v there) := by
  cases v with
  | object ms =>
    simp only [checkClosed, checkUnexpected]
    split
    · exact R.checkKeys_rel h _ _
    · split
      · exact R.ok ()
      · exact R.checkKeys_rel h _ _
  | null | bool | number | string | array => exact R.ok ()

end

theorem Path.child_congr {here there : Path} (h : here = there) (s : Segment) :
    here.child s = there.child s := congrArg (fun path => path.child s) h

theorem Json.aligned_of_eq {v w : Json} (h : v = w) : v.Aligned Eq w := by
  subst h
  exact .of_eq v

theorem Json.equal_congr {v w : Json} (h : v = w) (l : Json) : l.equal v = l.equal w :=
  congrArg l.equal h

/-- A comparison of two policies, for checks of the same value at the same path. -/
def Comparison.ofPolicies {ε ε' : Type} [Complaint ε] [Complaint ε'] (R : RunRelation ε ε')
    (p q : Policy) (nodes : Node → Bool → Prop) (matcher? : p.matcher? = q.matcher?)
    (part : ∀ {n m : Node} {inEnum : Bool}, nodes n inEnum → n.Holds m → nodes m false)
    (alternative : ∀ {n : Node} {a : Spec} {inEnum : Bool}, nodes n inEnum →
      .alternative a ∈ n.members → nodes (.spec a) true)
    (raise : ∀ i : Issue, i.code ∈ i.domain.raised → R.rel (p.raise i) (q.raise i))
    (trial : ∀ {a : Spec} {input : Option Json} {here : Path} {rest : Except ε Unit}
      {rest' : Except ε' Unit}, nodes (.spec a) true →
      R.rel (checkSpec p a input here true) (checkSpec q a input here true) → R.rel rest rest' →
      R.rel (tryNext (checkSpec p a input here true) rest)
        (tryNext (checkSpec q a input here true) rest')) : Comparison ε ε' where
  toRunRelation := R
  left := p
  right := q
  values := Eq
  places := Eq
  nodes := nodes
  matcher? := matcher?
  aligned := Json.aligned_of_eq
  literal := Json.equal_congr
  child := Path.child_congr
  part := part
  alternative := alternative
  raise := by
    rintro domain code here _ params about hcode rfl
    exact raise ⟨domain, code, here, params, about⟩ hcode
  closed := by
    rintro s v _ here _ rfl rfl
    exact R.checkClosed_rel
      (fun key => raise _ (show .unexpectedKey ∈ Domain.data.raised by decide)) v
  trial := by
    rintro a input _ here _ rest rest' hnode (⟨⟨⟩⟩ | _) rfl hcheck hrest
    · exact trial hnode hcheck hrest
    · exact trial hnode hcheck hrest

end Conform
