import Conform.Proofs.Check.Acceptance
import Conform.Proofs.Check.Listing
import Conform.Proofs.Number.Nearest

/-!
# Integers and their ranges

A number is compared with the bounds of its range by the nearest doubles.  For an
integer and integer bounds the verdict is the one of the exact comparisons unless
a bound is blurred: different from the integer, with the same nearest double, and
on the side where this decides.  An integer just outside of an inclusive bound is
then let in, and one just inside of an exclusive bound is kept out.
-/
namespace Conform

/-- The exact order of integers; anything else is compared as a double. -/
def Number.compareExactly : Number → Number → Ordering
  | integer m, integer n => Ord.compare m n
  | a, b => a.compare b

/-- The bound of a range is violated, given how a number compares with bounds. -/
def violatedUnder (order : Number → Ordering)
    (range : IssueCode × Option Number × (Ordering → Bool)) : Bool :=
  range.2.1.any fun b => range.2.2 (order b)

namespace Limits

def firstViolated? (l : Limits) (order : Number → Ordering) : Option IssueCode :=
  (l.ranges.find? (violatedUnder order)).map Prod.fst

/-- Whatever is declared of the range is an integer. -/
def IntegerRange (l : Limits) : Prop :=
  ∀ range ∈ l.ranges, ∀ b, range.2.1 = some b → ∃ m : Int, b = .integer m

structure Includes (l : Limits) (n : Int) : Prop where
  minimum : ∀ m : Int, l.minimum = some (.integer m) → m ≤ n
  maximum : ∀ m : Int, l.maximum = some (.integer m) → n ≤ m
  exclusiveMinimum : ∀ m : Int, l.exclusiveMinimum = some (.integer m) → m < n
  exclusiveMaximum : ∀ m : Int, l.exclusiveMaximum = some (.integer m) → n < m

/-- A bound that is reached, none before it being violated, has the same nearest
double as the integer, and equality is judged differently from the order of the
two. -/
def Blurs (l : Limits) (n : Int) : Prop :=
  ∃ earlier code violates, ∃ m : Int,
    earlier ++ [(code, some (.integer m), violates)] <+: l.ranges ∧
    (∀ range ∈ earlier, violatedUnder (Number.integer n).compareExactly range = false) ∧
    nearest n = nearest m ∧ violates (Ord.compare n m) ≠ violates .eq

end Limits

/-- An integer is validated as the exact comparisons with its bounds have it. -/
structure ExactlyRanged (matcher? : String → Option (String → Bool)) (s : Spec) (n : Int) :
    Prop where
  accepts : validateWith matcher? Catalog.builtin (.spec s) (.number (.integer n)) = .ok () ↔
    s.limits.Includes n
  rejects : ∀ r,
    validateWith matcher? Catalog.builtin (.spec s) (.number (.integer n)) = .error r →
      r.domain = .data ∧
        s.limits.firstViolated? (Number.integer n).compareExactly = some r.code

/-- Where every entry has a key of its own, two searches come to the same key if
they agree on every entry that the second one comes to. -/
theorem find?_map_eq_iff {α β : Type} {key : α → β} {p q : α → Bool} {l : List α}
    (hl : (l.map key).Nodup) : (l.find? p).map key = (l.find? q).map key ↔
      ∀ earlier x, earlier ++ [x] <+: l → (∀ y ∈ earlier, q y = false) → p x = q x := by
  induction l with
  | nil => simp
  | cons a l ih =>
    rw [List.map_cons, List.nodup_cons] at hl
    obtain ⟨ha, hl⟩ := hl
    have hnot (f : α → Bool) : (l.find? f).map key ≠ some (key a) := by
      intro h
      obtain ⟨x, hx, hkey⟩ := Option.map_eq_some_iff.mp h
      exact ha (hkey ▸ List.mem_map_of_mem (List.mem_of_find?_eq_some hx))
    constructor
    · intro h
      have hpq : p a = q a := by
        cases hp : p a <;> cases hq : q a <;>
          simp only [List.find?_cons, hp, hq, Option.map_some] at h ⊢
        · exact absurd h (hnot p)
        · exact absurd h.symm (hnot q)
      rintro (_ | ⟨b, earlier⟩) x hx hearlier
      · obtain ⟨rfl, _⟩ := List.cons_prefix_cons.mp hx
        exact hpq
      · obtain ⟨rfl, hx'⟩ := List.cons_prefix_cons.mp hx
        rw [List.forall_mem_cons] at hearlier
        simp only [List.find?_cons, hpq, hearlier.1] at h
        exact (ih hl).mp h earlier x hx' hearlier.2
    · intro h
      have hpq : p a = q a := h [] a (by simp) (by simp)
      rw [List.find?_cons, List.find?_cons, hpq]
      cases hq : q a with
      | true => rfl
      | false =>
        refine (ih hl).mpr fun earlier x hx hearlier => ?_
        exact h (a :: earlier) x (List.cons_prefix_cons.mpr ⟨rfl, hx⟩)
          (List.forall_mem_cons.mpr ⟨hq, hearlier⟩)

/-- Bounds are compared as doubles, which says what the exact comparison says
unless the doubles are equal. -/
theorem Number.compare_integer_eq_ite (n m : Int) : (Number.integer n).compare (.integer m) =
    if nearest n = nearest m then .eq else Ord.compare n m := by
  rw [compare_integer]
  split
  · rename_i h
    rw [h]
    exact compare_eq_iff_eq.mpr rfl
  · rename_i h
    rcases lt_trichotomy n m with hlt | rfl | hgt
    · have hnearest : nearest n < nearest m := (nearest_mono hlt.le).lt_of_ne h
      rw [compare_lt_iff_lt.mpr hlt, compare_lt_iff_lt.mpr hnearest]
    · exact absurd rfl h
    · have hnearest : nearest m < nearest n := (nearest_mono hgt.le).lt_of_ne' h
      rw [compare_gt_iff_gt.mpr hgt, compare_gt_iff_gt.mpr hnearest]

namespace Limits
variable {l : Limits} {n : Int}

theorem nodup_codes (l : Limits) : (l.ranges.map Prod.fst).Nodup := by
  simp [ranges]

/-- A bound is misjudged exactly if it has the double of the integer and equality
is judged differently. -/
theorem violatedUnder_eq_iff {code : IssueCode} {violates : Ordering → Bool} {m : Int} :
    violatedUnder (Number.integer n).compare (code, some (.integer m), violates) =
        violatedUnder (Number.integer n).compareExactly (code, some (.integer m), violates) ↔
      ¬ (nearest n = nearest m ∧ violates (Ord.compare n m) ≠ violates .eq) := by
  simp only [violatedUnder, Option.any_some, Number.compareExactly, Number.compare_integer_eq_ite]
  split
  · rename_i h
    simp [h, eq_comm]
  · rename_i h
    simp [h]

/-- The comparisons of doubles find the bound that the exact ones do, unless one
is blurred. -/
theorem firstViolated?_eq_iff (h : l.IntegerRange) :
    l.firstViolated? (Number.integer n).compare =
      l.firstViolated? (Number.integer n).compareExactly ↔ ¬ l.Blurs n := by
  rw [firstViolated?, firstViolated?, find?_map_eq_iff l.nodup_codes]
  constructor
  · rintro hagree ⟨earlier, code, violates, m, hprefix, hearlier, hblurred⟩
    exact violatedUnder_eq_iff.mp (hagree _ _ hprefix hearlier) hblurred
  · rintro hclear earlier ⟨code, bound, violates⟩ hprefix hearlier
    cases bound with
    | none => rfl
    | some b =>
      have hmem := hprefix.subset (List.mem_append_right earlier (List.mem_singleton_self _))
      obtain ⟨m, rfl⟩ := h _ hmem b rfl
      exact violatedUnder_eq_iff.mpr fun hblurred =>
        hclear ⟨earlier, code, violates, m, hprefix, hearlier, hblurred⟩

theorem violatedUnder_compareExactly_eq_false_iff {code : IssueCode} {bound : Option Number}
    {violates : Ordering → Bool} (h : ∀ b, bound = some b → ∃ m : Int, b = .integer m) :
    violatedUnder (Number.integer n).compareExactly (code, bound, violates) = false ↔
      ∀ m : Int, bound = some (.integer m) → violates (Ord.compare n m) = false := by
  cases bound with
  | none => simp [violatedUnder]
  | some b =>
    obtain ⟨m, rfl⟩ := h b rfl
    simp [violatedUnder, Number.compareExactly]

/-- An integer is in a range exactly if no bound is violated by it. -/
theorem firstViolated?_eq_none_iff (h : l.IntegerRange) :
    l.firstViolated? (Number.integer n).compareExactly = none ↔ l.Includes n := by
  have hnone : l.firstViolated? (Number.integer n).compareExactly = none ↔ ∀ range ∈ l.ranges,
      violatedUnder (Number.integer n).compareExactly range = false := by
    simp [firstViolated?]
  unfold IntegerRange at h
  rw [hnone]
  simp only [ranges, List.forall_mem_cons] at h ⊢
  rw [violatedUnder_compareExactly_eq_false_iff h.1,
    violatedUnder_compareExactly_eq_false_iff h.2.1,
    violatedUnder_compareExactly_eq_false_iff h.2.2.1,
    violatedUnder_compareExactly_eq_false_iff h.2.2.2.1]
  simp only [decide_eq_false_iff_not, Decidable.not_not, compare_lt_iff_lt, compare_gt_iff_gt,
    not_lt]
  constructor
  · rintro ⟨hmin, hmax, hemin, hemax, -⟩
    exact ⟨hmin, hmax, hemin, hemax⟩
  · intro h
    exact ⟨h.minimum, h.maximum, h.exclusiveMinimum, h.exclusiveMaximum, by simp⟩

theorem Blurs.le_natAbs (h : l.Blurs n) : 2 ^ 53 ≤ n.natAbs ∧
    ∃ range ∈ l.ranges, ∃ m : Int, range.2.1 = some (.integer m) ∧ 2 ^ 53 ≤ m.natAbs := by
  obtain ⟨earlier, code, violates, m, hprefix, -, hnearest, hjudged⟩ := h
  have hne : n ≠ m := by
    rintro rfl
    exact hjudged (by rw [compare_eq_iff_eq.mpr rfl])
  obtain ⟨hn, hm⟩ := le_natAbs_of_nearest_eq hnearest hne
  exact ⟨hn, _, hprefix.subset (List.mem_append_right earlier (List.mem_singleton_self _)), m,
    rfl, hm⟩

end Limits
section
variable {p : Policy} {s : Spec} {tag : TypeTag} {n : Number} {here : Path}

/-- A number of the declared type is checked against the range only. -/
theorem checkSpec_number (inEnum : Bool) (htype : s.type = .tag tag.name)
    (hn : tag.admits (.number n) = true) (hproperties : ∀ raw, s.properties ≠ .malformed raw) :
    checkSpec p s (some (.number n)) here inEnum =
      checkRange p s.limits n here s.annotations := by
  have hok : checkProperties p s.properties here s.annotations = .ok () := by
    cases hp : s.properties with
    | malformed raw => exact absurd hp (hproperties raw)
    | undeclared | declared => rfl
  rw [checkSpec_of_admits inEnum htype hn, hok]
  change (checkRange p s.limits n here s.annotations >>= fun _ => _) = _
  cases checkRange p s.limits n here s.annotations <;> rfl

/-- The extension of a specification checks a number in the same way. -/
theorem checkNode_extended_number (root : Json) (inEnum : Bool) (htype : s.type = .tag tag.name)
    (hn : tag.admits (.number n) = true) (hproperties : ∀ raw, s.properties ≠ .malformed raw) :
    checkNode p ((Node.spec s).extended root) (some (.number n)) here inEnum =
      checkRange p s.limits n here s.annotations := by
  have htype' : (s.applied root).type = .tag tag.name := (s.applied_type root).trans htype
  rw [Node.extended_spec, checkNode_spec, ← s.applied_limits root, ← s.applied_annotations root]
  refine checkSpec_number inEnum htype' hn fun raw hraw => ?_
  cases hp : (s.applied root).properties with
  | malformed raw' => exact hproperties raw' (Spec.applied_grows.malformed raw' hp)
  | undeclared | declared =>
    rw [hp] at hraw
    cases hraw

theorem boundIssues_of_kept {code : IssueCode} {bound : Option Number}
    {violates : Ordering → Bool} (about : Annotations)
    (h : violatedUnder n.compare (code, bound, violates) = false) :
    boundIssues here about code violates n bound = [] := by
  cases bound with
  | none => rfl
  | some b =>
    unfold violatedUnder at h
    simpa [boundIssues] using h

theorem boundIssues_of_violated {code : IssueCode} {b : Number} {violates : Ordering → Bool}
    (about : Annotations) (h : violatedUnder n.compare (code, some b, violates) = true) :
    boundIssues here about code violates n (some b) =
      [dataIssue code here about [(code.name, b.text)]] := by
  unfold violatedUnder at h
  simpa [boundIssues] using h

/-- The first bound that is violated is the one that is reported. -/
theorem Catalog.outcome_rangeIssues {c : Catalog} (hc : ∀ code, code ∈ IssueCode.ofData →
      c.covers .data code = true) (about : Annotations) (l : Limits) (n : Number) :
    c.outcome (rangeIssues here about l n) () =
      match l.ranges.find? (violatedUnder n.compare) with
      | some (code, some b, _) =>
        .error (c.report (dataIssue code here about [(code.name, b.text)]))
      | _ => .ok () := by
  have hcodes : ∀ range ∈ l.ranges, c.covers .data range.1 = true := by
    have hsub : l.ranges.map Prod.fst ⊆ IssueCode.ofData := by
      simp [Limits.ranges, IssueCode.ofData]
    exact fun range h => hc _ (hsub (List.mem_map_of_mem h))
  unfold rangeIssues
  generalize l.ranges = ranges at hcodes
  induction ranges with
  | nil => rfl
  | cons range rest ih =>
    obtain ⟨code, bound, violates⟩ := range
    rw [List.forall_mem_cons] at hcodes
    rw [List.flatMap_cons, List.find?_cons]
    cases hb : violatedUnder n.compare (code, bound, violates) with
    | false =>
      rw [boundIssues_of_kept about hb, List.nil_append]
      exact ih hcodes.2
    | true =>
      cases bound with
      | none => cases hb
      | some b =>
        have hreport : c.report? (dataIssue code here about [(code.name, b.text)]) =
            some (c.report (dataIssue code here about [(code.name, b.text)])) :=
          if_pos hcodes.1
        rw [boundIssues_of_violated about hb, Catalog.outcome, List.singleton_append,
          List.findSome?_cons, hreport]

/-- Validation of a number of the declared type. -/
theorem validateWith_number (matcher? : String → Option (String → Bool))
    (htype : s.type = .tag tag.name) (hn : tag.admits (.number n) = true)
    (hproperties : ∀ raw, s.properties ≠ .malformed raw)
    (hfields : (Node.spec s).fieldIssues (.number n) Path.root = []) :
    validateWith matcher? Catalog.builtin (.spec s) (.number n) =
      match s.limits.ranges.find? (violatedUnder n.compare) with
      | some (code, some b, _) => .error
        (Catalog.builtin.report (dataIssue code Path.root s.annotations [(code.name, b.text)]))
      | _ => .ok () := by
  rw [← Catalog.outcome_rangeIssues (Catalog.builtin_reportsData matcher?),
    ← Catalog.builtin.mapError_outcome matcher?, ← checkRange_eq_outcome,
    ← checkNode_extended_number (.number n) false htype hn hproperties,
    validateWith_eq, check, extend, Node.extend_eq_outcome, hfields]
  rfl

/-- The code of a rejection is the one of the first bound that the doubles violate. -/
theorem validateWith_number_verdict (matcher? : String → Option (String → Bool))
    (htype : s.type = .tag tag.name) (hn : tag.admits (.number n) = true)
    (hproperties : ∀ raw, s.properties ≠ .malformed raw)
    (hfields : (Node.spec s).fieldIssues (.number n) Path.root = []) :
    (validateWith matcher? Catalog.builtin (.spec s) (.number n) = .ok () ∧
      s.limits.firstViolated? n.compare = none) ∨
    ∃ r, validateWith matcher? Catalog.builtin (.spec s) (.number n) = .error r ∧
      r.domain = .data ∧ s.limits.firstViolated? n.compare = some r.code := by
  rw [validateWith_number matcher? htype hn hproperties hfields, Limits.firstViolated?]
  cases hfound : s.limits.ranges.find? (violatedUnder n.compare) with
  | none => exact .inl ⟨rfl, rfl⟩
  | some range =>
    obtain ⟨code, bound, violates⟩ := range
    cases bound with
    | none => cases List.find?_some hfound
    | some b => exact .inr ⟨_, rfl, rfl, rfl⟩

end

/-- Validation goes by the exact comparisons where they find the bound that the
comparisons of doubles find. -/
theorem exactlyRanged_iff {matcher? : String → Option (String → Bool)} {s : Spec} {n : Int}
    (hbounds : s.limits.IntegerRange)
    (hverdict : (validateWith matcher? Catalog.builtin (.spec s) (.number (.integer n)) = .ok () ∧
        s.limits.firstViolated? (Number.integer n).compare = none) ∨
      ∃ r, validateWith matcher? Catalog.builtin (.spec s) (.number (.integer n)) = .error r ∧
        r.domain = .data ∧ s.limits.firstViolated? (Number.integer n).compare = some r.code) :
    ExactlyRanged matcher? s n ↔ s.limits.firstViolated? (Number.integer n).compare =
      s.limits.firstViolated? (Number.integer n).compareExactly := by
  constructor
  · intro h
    rcases hverdict with ⟨hok, hnone⟩ | ⟨r, herror, -, hsome⟩
    · rw [hnone, (Limits.firstViolated?_eq_none_iff hbounds).mpr (h.accepts.mp hok)]
    · rw [hsome, (h.rejects r herror).2]
  · intro h
    rw [h] at hverdict
    refine ⟨?_, ?_⟩
    · rw [← Limits.firstViolated?_eq_none_iff hbounds]
      rcases hverdict with ⟨hok, hnone⟩ | ⟨r, herror, -, hsome⟩
      · exact iff_of_true hok hnone
      · rw [herror, hsome]
        simp
    · intro r hr
      rcases hverdict with ⟨hok, -⟩ | ⟨r', herror, hdata, hsome⟩
      · rw [hok] at hr
        cases hr
      · rw [herror] at hr
        cases hr
        exact ⟨hdata, hsome⟩

/-- An integer is validated as the exact comparisons with integer bounds have it
just when no bound is blurred.  This is always so where the integer, or else each
of the bounds, is below `2^53` in magnitude.  The extension is not to meet a field
that is not a path, and the properties are not to be malformed. -/
theorem integer_ranged_exactly_iff (matcher? : String → Option (String → Bool)) (s : Spec)
    (n : Int) (htype : s.type = .tag "number" ∨ s.type = .tag "integer")
    (hproperties : ∀ raw, s.properties ≠ .malformed raw)
    (hfields : (Node.spec s).fieldIssues (.number (.integer n)) Path.root = [])
    (hbounds : s.limits.IntegerRange) :
    (ExactlyRanged matcher? s n ↔ ¬ s.limits.Blurs n) ∧
    (n.natAbs < 2 ^ 53 → ExactlyRanged matcher? s n) ∧
    ((∀ range ∈ s.limits.ranges, ∀ m : Int, range.2.1 = some (.integer m) →
      m.natAbs < 2 ^ 53) → ExactlyRanged matcher? s n) := by
  obtain ⟨tag, htag, hadmits⟩ : ∃ tag : TypeTag, s.type = .tag tag.name ∧
      tag.admits (.number (.integer n)) = true := by
    rcases htype with htype | htype
    · exact ⟨.number, htype, rfl⟩
    · exact ⟨.integer, htype, rfl⟩
  have hverdict := validateWith_number_verdict matcher? htag hadmits hproperties hfields
  have hiff : ExactlyRanged matcher? s n ↔ ¬ s.limits.Blurs n :=
    (exactlyRanged_iff hbounds hverdict).trans (Limits.firstViolated?_eq_iff hbounds)
  refine ⟨hiff, fun hn => hiff.mpr fun hblurs => ?_, fun hm => hiff.mpr fun hblurs => ?_⟩
  · exact absurd hn (Nat.not_lt.mpr hblurs.le_natAbs.1)
  · obtain ⟨_, range, hrange, m, hbound, hle⟩ := hblurs.le_natAbs
    exact absurd (hm range hrange m hbound) (Nat.not_lt.mpr hle)

/-- The integers up to `2^53`. -/
def upToPrecision : Spec :=
  { Spec.ofTag "integer" with limits := { maximum := some (.integer 9007199254740992) } }

theorem upToPrecision_integerRange : upToPrecision.limits.IntegerRange := by
  simp [Limits.IntegerRange, Limits.ranges, upToPrecision]

theorem upToPrecision_fieldIssues (input : Json) :
    (Node.spec upToPrecision).fieldIssues input Path.root = [] := by
  rw [Node.fieldIssues_spec]
  rfl

/-- The next integer has the double of the bound and is misjudged; the integers on
either side of the two are not. -/
theorem upToPrecision_blurs_successor :
    ¬ ExactlyRanged (fun _ => none) upToPrecision 9007199254740993 ∧
    ExactlyRanged (fun _ => none) upToPrecision 9007199254740994 ∧
    ExactlyRanged (fun _ => none) upToPrecision 9007199254740991 := by
  have hiff (n : Int) := integer_ranged_exactly_iff (fun _ => none) upToPrecision n (.inr rfl)
    (by rintro raw ⟨⟩) (upToPrecision_fieldIssues _) upToPrecision_integerRange
  have hagree (n : Int) := Limits.firstViolated?_eq_iff (n := n) upToPrecision_integerRange
  refine ⟨fun h => ?_, (hiff _).1.mpr ?_, (hiff _).2.1 (by decide)⟩
  · exact absurd ((hagree _).mpr ((hiff _).1.mp h)) (by decide +kernel)
  · exact (hagree _).mp (by decide +kernel)

/-- An integer above the maximum is accepted: the two have the same nearest double. -/
theorem upToPrecision_accepts_successor :
    upToPrecision.type = .tag "integer" ∧ upToPrecision.properties = .undeclared ∧
    upToPrecision.conditions = [] ∧ upToPrecision.limits.IntegerRange ∧
    upToPrecision.limits.maximum = some (.integer 9007199254740992) ∧
    ¬ upToPrecision.limits.Includes 9007199254740993 ∧
    validateWith (fun _ => none) Catalog.builtin (.spec upToPrecision)
      (.number (.integer 9007199254740993)) = .ok () := by
  refine ⟨rfl, rfl, rfl, upToPrecision_integerRange, rfl, fun h => ?_, ?_⟩
  · exact absurd (h.maximum _ rfl) (by decide)
  · have hnone : upToPrecision.limits.firstViolated?
        (Number.integer 9007199254740993).compare = none := by
      decide +kernel
    have htype : upToPrecision.type = .tag TypeTag.integer.name := rfl
    have hadmits : TypeTag.integer.admits (.number (.integer 9007199254740993)) = true := rfl
    rcases validateWith_number_verdict (fun _ => none) htype hadmits (by rintro raw ⟨⟩)
      (upToPrecision_fieldIssues _) with ⟨hok, -⟩ | ⟨r, -, -, hsome⟩
    · exact hok
    · rw [hnone] at hsome
      cases hsome

end Conform
