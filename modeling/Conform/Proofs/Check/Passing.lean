import Conform.Proofs.Check.Conformance

/-!
# When a check passes

Under a policy that reports every issue about the input, each part of a check
passes exactly when its requirement is met, provided that the schema gives it no
reason to stop.
-/
namespace Conform

/-- The codes that a check uses for issues about the input. -/
def IssueCode.ofData : List IssueCode :=
  [typeof, required, enum, maxItems, minItems, maxLength, minLength, pattern, unexpectedKey,
    minimum, maximum, exclusiveMinimum, exclusiveMaximum]

/-- No issue about the input is passed over. -/
def Policy.ReportsData (p : Policy) : Prop :=
  ∀ code ∈ IssueCode.ofData, p.reports .data code = true

/-- Whatever is in the bound is a number. -/
def NumericBound (bound : Option Json) : Prop := ∀ raw, bound = some raw → raw.number? ≠ none

theorem bind_unit_eq_ok_iff {ε : Type} {x : Except ε Unit} {f : Unit → Except ε Unit} :
    (x >>= f) = .ok () ↔ x = .ok () ∧ f () = .ok () := by
  rw [bind_eq_ok_iff]
  constructor
  · rintro ⟨_, hx, hf⟩
    exact ⟨hx, hf⟩
  · rintro ⟨hx, hf⟩
    exact ⟨(), hx, hf⟩

section
variable {p : Policy} {here : Path} {about : Annotations}

theorem Policy.ReportsData.raise_ne_ok (hp : p.ReportsData) {code : IssueCode}
    {params : List (String × String)} (h : code ∈ IssueCode.ofData) :
    p.raise (dataIssue code here about params) ≠ .ok () := by
  intro hok
  have hr := (p.raise_eq_ok_iff _).mp hok
  have hr' : p.reports .data code = false := hr
  rw [hp code h] at hr'
  cases hr'

theorem checkTag_of_admits {ε : Type} [Complaint ε] {name : String} {tag : TypeTag} {v : Json}
    (ht : TypeTag.parse? name = some tag) (hv : tag.admits v = true) :
    (checkTag p name v here about : Except ε _) = .ok (some tag) := by
  unfold checkTag
  rw [ht]
  dsimp only
  rw [if_pos hv]
  rfl

theorem checkTag_eq_ok_iff (hp : p.ReportsData) {name : String} {tag : TypeTag} {v : Json}
    {found : Option TypeTag} (ht : TypeTag.parse? name = some tag) :
    checkTag p name v here about = .ok found ↔ tag.admits v = true ∧ found = some tag := by
  by_cases hv : tag.admits v = true
  · rw [checkTag_of_admits ht hv]
    simp [hv, eq_comm]
  · unfold checkTag
    rw [ht]
    dsimp only
    rw [if_neg hv, bind_eq_ok_iff]
    refine iff_of_false ?_ fun h => hv h.1
    rintro ⟨_, hraise, _⟩
    exact hp.raise_ne_ok (by decide) hraise

theorem checkPattern_eq_ok_iff (hp : p.ReportsData) {pattern : Option String} {text : String}
    (hread : ∀ source, pattern = some source → p.matcher? source ≠ none) :
    checkPattern p pattern text here about = .ok () ↔
      ∀ source, pattern = some source →
        ∃ accepts, p.matcher? source = some accepts ∧ accepts text = true := by
  cases pattern with
  | none => simp [checkPattern, pure, Except.pure]
  | some source =>
    obtain ⟨accepts, hs⟩ := Option.ne_none_iff_exists'.mp (hread source rfl)
    unfold checkPattern
    simp only [hs, Option.some.injEq, forall_eq', exists_eq_left']
    split
    · rename_i ht
      exact iff_of_true rfl ht
    · rename_i ht
      exact iff_of_false (hp.raise_ne_ok (by decide)) ht

theorem checkBound_eq_ok_iff (hp : p.ReportsData) {code : IssueCode}
    {violates : Ordering → Bool} {n : Number} {bound : Option Number}
    (hcode : code ∈ IssueCode.ofData) : checkBound p code violates n bound here about = .ok () ↔
      ∀ b, bound = some b → violates (n.compare b) = false := by
  cases bound with
  | none => simp [checkBound, pure, Except.pure]
  | some b =>
    unfold checkBound
    simp only [Option.some.injEq, forall_eq']
    split
    · rename_i hb
      exact iff_of_false (hp.raise_ne_ok hcode) (by simp [hb])
    · rename_i hb
      exact iff_of_true rfl (by simpa using hb)

theorem checkRange_eq_ok_iff (hp : p.ReportsData) {l : Limits} {n : Number} :
    checkRange p l n here about = .ok () ↔ l.AdmitsNumber n := by
  unfold checkRange
  simp only [bind_unit_eq_ok_iff]
  rw [checkBound_eq_ok_iff hp (by decide), checkBound_eq_ok_iff hp (by decide),
    checkBound_eq_ok_iff hp (by decide), checkBound_eq_ok_iff hp (by decide)]
  simp only [decide_eq_false_iff_not, Decidable.not_not]
  exact ⟨fun ⟨hmin, hmax, hemin, hemax⟩ => ⟨hmin, hmax, hemin, hemax⟩,
    fun ⟨hmin, hmax, hemin, hemax⟩ => ⟨hmin, hmax, hemin, hemax⟩⟩

theorem readBound_of_numeric {code : IssueCode} {bound : Option Json} (h : NumericBound bound) :
    readBound p code bound here about = .ok (bound.bind Json.number?) := by
  cases bound with
  | none => rfl
  | some raw =>
    cases raw with
    | number n => rfl
    | null | bool | string | array | object => exact absurd rfl (h _ rfl)

theorem number?_bind_eq_some_iff {bound : Option Json} {n : Number} :
    bound.bind Json.number? = some n ↔ bound = some (.number n) := by
  rw [Option.bind_eq_some_iff]
  constructor
  · rintro ⟨raw, rfl, h⟩
    cases raw <;> cases h
    rfl
  · rintro rfl
    exact ⟨_, rfl, rfl⟩

theorem checkVacuous_of_positive {m : Measure} {bound : Option Number}
    (h : ∀ n, bound = some n → n.compare (.integer 0) = .gt) :
    checkVacuous p m bound here about = .ok () := by
  cases bound with
  | none => rfl
  | some n =>
    unfold checkVacuous
    dsimp only
    rw [if_pos (h n rfl)]
    rfl

theorem checkSize_eq_ok_iff (hp : p.ReportsData) {m : Measure} {l : Limits} {size : Nat}
    (hmax : NumericBound (m.max l)) (hmin : NumericBound (m.min l))
    (hpos : ∀ n, m.min l = some (.number n) → n.compare (.integer 0) = .gt) :
    checkSize p m l size here about = .ok () ↔ l.AdmitsSize m size := by
  unfold checkSize
  rw [readBound_of_numeric hmax, readBound_of_numeric hmin]
  change (checkVacuous _ _ _ _ _ >>= _) = _ ↔ _
  rw [checkVacuous_of_positive fun n hn => hpos n (number?_bind_eq_some_iff.mp hn)]
  change (checkBound _ _ _ _ _ _ _ >>= _) = _ ↔ _
  rw [bind_unit_eq_ok_iff, checkBound_eq_ok_iff hp (by cases m <;> decide),
    checkBound_eq_ok_iff hp (by cases m <;> decide)]
  simp only [number?_bind_eq_some_iff, decide_eq_false_iff_not]
  exact ⟨fun ⟨habove, hbelow⟩ => ⟨habove, hbelow⟩, fun ⟨habove, hbelow⟩ => ⟨habove, hbelow⟩⟩

theorem checkKeys_eq_ok_iff (hp : p.ReportsData) {declared : Table Node} {keys : List String} :
    checkKeys p declared here about keys = .ok () ↔
      ∀ key ∈ keys, declared.contains key = true := by
  induction keys with
  | nil => simp [checkKeys, pure, Except.pure]
  | cons key rest ih =>
    unfold checkKeys
    rw [List.forall_mem_cons, ← ih]
    cases hk : declared.contains key with
    | true => exact (and_iff_right rfl).symm
    | false =>
      refine iff_of_false ?_ fun h => by cases h.1
      change (p.raise _ >>= _) ≠ _
      intro h
      exact hp.raise_ne_ok (by decide) (bind_unit_eq_ok_iff.mp h).1

theorem checkUnexpected_eq_ok_iff (hp : p.ReportsData) {s : Spec} {ms : Table Json} :
    checkUnexpected p s.additionalProperties s.properties ms here about = .ok () ↔
      ∀ key ∈ ms.keys, s.allowsKey key = true := by
  unfold checkUnexpected Spec.allowsKey
  cases s.properties.table? with
  | some declared => exact checkKeys_eq_ok_iff hp
  | none =>
    cases s.additionalProperties with
    | true => exact iff_of_true rfl fun _ _ => rfl
    | false => exact checkKeys_eq_ok_iff hp

theorem checkPresence_none_eq_ok_iff (hp : p.ReportsData) {required : Bool} :
    checkPresence p required none here about = .ok () ↔
      (required = true → about.default ≠ none) := by
  unfold checkPresence
  split
  · rename_i h
    simp only [Option.isNone_none, Bool.and_true, Bool.and_eq_true,
      Option.isNone_iff_eq_none] at h
    exact iff_of_false (hp.raise_ne_ok (by decide)) fun hd => hd h.1 h.2
  · rename_i h
    simp only [Option.isNone_none, Bool.and_true, Bool.and_eq_true,
      Option.isNone_iff_eq_none] at h
    exact iff_of_true rfl fun hr hd => h ⟨hr, hd⟩

theorem checkEach_eq_ok_iff {check : Json → Path → Except Issue Unit} {xs : List Json}
    {position : Nat} : checkEach check here position xs = .ok () ↔
      ∀ k x, xs[k]? = some x → check x (here.child (.index (position + k))) = .ok () := by
  induction xs generalizing position with
  | nil => simp [checkEach, pure, Except.pure]
  | cons x rest ih =>
    rw [checkEach, bind_unit_eq_ok_iff, ih]
    constructor
    · rintro ⟨hx, hrest⟩ k y hk
      cases k with
      | zero =>
        cases hk
        exact hx
      | succ k =>
        have hy := hrest k y hk
        rwa [Nat.add_right_comm, Nat.add_assoc] at hy
    · intro h
      refine ⟨h 0 x rfl, fun k y hk => ?_⟩
      have hy := h (k + 1) y hk
      rwa [← Nat.add_assoc, Nat.add_right_comm] at hy

theorem checkPositional_eq_ok_iff {nodes : List Node} {xs : List Json} {position : Nat} :
    checkPositional p nodes xs here position = .ok () ↔
      ∀ k node x, nodes[k]? = some node → xs[k]? = some x →
        checkNode p node (some x) (here.child (.index (position + k))) false = .ok () := by
  induction nodes generalizing xs position with
  | nil => simp [checkPositional, pure, Except.pure]
  | cons node nodes ih =>
    cases xs with
    | nil => simp [checkPositional, pure, Except.pure]
    | cons x xs =>
      rw [checkPositional, bind_unit_eq_ok_iff, ih]
      constructor
      · rintro ⟨hx, hrest⟩ k n y hn hk
        cases k with
        | zero =>
          cases hn
          cases hk
          exact hx
        | succ k =>
          have hy := hrest k n y hn hk
          rwa [Nat.add_right_comm, Nat.add_assoc] at hy
      · intro h
        refine ⟨h 0 node x rfl rfl, fun k n y hn hk => ?_⟩
        have hy := h (k + 1) n y hn hk
        rwa [← Nat.add_assoc, Nat.add_right_comm] at hy

theorem checkItems_eq_ok_iff {items : Items} {xs : List Json} :
    checkItems p items xs here = .ok () ↔
      ∀ k node x, items.nodeAt? k = some node → xs[k]? = some x →
        checkNode p node (some x) (here.child (.index k)) false = .ok () := by
  cases items with
  | unconstrained => simp [checkItems, Items.nodeAt?, pure, Except.pure]
  | each node =>
    rw [checkItems, checkEach_eq_ok_iff]
    simp only [Nat.zero_add, Items.nodeAt?, Option.some.injEq]
    exact ⟨fun h k _ x hn => hn ▸ h k x, fun h k x => h k node x rfl⟩
  | positional nodes =>
    rw [checkItems, checkPositional_eq_ok_iff]
    simp only [Nat.zero_add, Items.nodeAt?]
  | eachTag name =>
    rw [checkItems, checkEach_eq_ok_iff]
    simp only [Nat.zero_add, Items.nodeAt?, Option.some.injEq]
    exact ⟨fun h k _ x hn => hn ▸ h k x, fun h k x => h k (.tag name) x rfl⟩

theorem checkTable_eq_ok_iff {table : Table Node} {ms : Table Json} :
    checkTable p table ms here = .ok () ↔ ∀ key node, (key, node) ∈ table →
      checkNode p node (ms.get? key) (here.child (.key key)) false = .ok () := by
  induction table with
  | nil => simp [checkTable, pure, Except.pure]
  | cons e rest ih =>
    obtain ⟨key, node⟩ := e
    rw [checkTable, bind_unit_eq_ok_iff, ih]
    constructor
    · rintro ⟨hnode, hrest⟩ k n hn
      rcases List.mem_cons.mp hn with h | h
      · cases h
        exact hnode
      · exact hrest k n h
    · intro h
      exact ⟨h key node (List.mem_cons_self ..), fun k n hn => h k n (List.mem_cons_of_mem _ hn)⟩

theorem checkDeclared_eq_ok_iff {properties : Properties} {ms : Table Json} :
    checkDeclared p properties ms here = .ok () ↔ ∀ table key node,
      properties = .declared table → (key, node) ∈ table →
        checkNode p node (ms.get? key) (here.child (.key key)) false = .ok () := by
  cases properties with
  | declared table =>
    rw [checkDeclared, checkTable_eq_ok_iff]
    simp only [Properties.declared.injEq]
    exact ⟨fun h _ key node ht => ht ▸ h key node, fun h key node => h table key node rfl⟩
  | undeclared | malformed => simp [checkDeclared, pure, Except.pure]

end
end Conform
