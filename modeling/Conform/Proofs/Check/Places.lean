import Conform.Proofs.Check.Parts
import Conform.Proofs.Check.SchemaIssues
import Conform.Proofs.Extension.Fixpoint
import Conform.Proofs.Path.RoundTrip

/-!
# Where an issue about the input lies

A check goes from a value to its parts, and the path grows by the segment of the
part.  Trying an alternative of an enumeration also adds a segment, but the
issues about the input that arise there never leave the enumeration.  So the
path of such an issue, once reported, leads through the input to the value that
it is about.
-/
namespace Conform

/-- A node and a value, or its absence, are come to along a path from part to
part; the alternatives of enumerations are no parts. -/
inductive Reaches : Node → Option Json → Path → Node → Option Json → Prop where
  | here (n : Node) (input : Option Json) : Reaches n input [] n input
  | part {s : Spec} {v : Json} {part : Part} {q : Path} {m : Node} {found : Option Json}
    (h : part ∈ s.parts v) (hr : Reaches part.node part.value q m found) :
    Reaches (.spec s) (some v) (part.segment :: q) m found

/-- What is found at the path of an issue about the input. -/
def IssueCode.Finds : IssueCode → Option Json → Prop
  | required, found => found = none
  | enum, _ => True
  | pattern, found | minLength, found | maxLength, found => ∃ text, found = some (.string text)
  | minItems, found | maxItems, found => ∃ xs, found = some (.array xs)
  | minimum, found | maximum, found | exclusiveMinimum, found | exclusiveMaximum, found =>
    ∃ n, found = some (.number n)
  | _, found => ∃ v, found = some v

/-- An issue is about what is found at a path, or about a key of the object that
is found there. -/
inductive Issue.Concerns (i : Issue) (there : Path) (found : Option Json) : Prop where
  | value (hp : i.path = there) (hc : i.code ≠ .unexpectedKey) (hf : i.code.Finds found)
  | key {ms : Table Json} {key : String} (hc : i.code = .unexpectedKey)
    (hp : i.path = there.child (.key key)) (hf : found = some (.object ms)) (hk : key ∈ ms.keys)

section
variable {matcher? : String → Option (String → Bool)} {n m : Node} {input found : Option Json}
  {here q : Path} {v : Json}

theorem Measure.finds_of_size? {m : Measure} {size : Nat} (h : m.size? v = some size) :
    m.maxCode.Finds (some v) ∧ m.minCode.Finds (some v) := by
  cases m <;> cases v <;> cases h <;> exact ⟨⟨_, rfl⟩, ⟨_, rfl⟩⟩

theorem Limits.finds_of_mem_ranges {l : Limits} {code : IssueCode} {bound : Option Number}
    {violates : Ordering → Bool} {b : Number} (h : (code, bound, violates) ∈ l.ranges) :
    code ≠ .unexpectedKey ∧ code.Finds (some (.number b)) := by
  simp only [ranges, List.mem_cons, Prod.mk.injEq, List.not_mem_nil, or_false] at h
  rcases h with ⟨rfl, _⟩ | ⟨rfl, _⟩ | ⟨rfl, _⟩ | ⟨rfl, _⟩ <;>
    exact ⟨by decide, b, rfl⟩

/-- A reported issue about the input is about a part of it. -/
theorem Raises.reaches {inEnum : Bool} {i : Issue} (h : Raises matcher? n input here inEnum i)
    (hi : i.domain = .data) : ∃ q m found, Reaches n input q m found ∧
      i.annotations = m.annotations ∧ i.Concerns (here ++ q) found := by
  -- Below an alternative only issues about the schema are raised further.
  have hself {n : Node} {input : Option Json} {here : Path} {code : IssueCode}
      {params : List (String × String)} (hc : code ≠ .unexpectedKey) (hf : code.Finds input) :
      ∃ q m found, Reaches n input q m found ∧ n.annotations = m.annotations ∧
        (dataIssue code here n.annotations params).Concerns (here ++ q) found :=
    ⟨[], n, input, .here n input, rfl, .value (List.append_nil here).symm hc hf⟩
  have hpart {s : Spec} {v : Json} {part : Part} {here : Path} {i : Issue} (hp : part ∈ s.parts v)
      (ih : ∃ q m found, Reaches part.node part.value q m found ∧
        i.annotations = m.annotations ∧ i.Concerns (here.child part.segment ++ q) found) :
      ∃ q m found, Reaches (.spec s) (some v) q m found ∧ i.annotations = m.annotations ∧
        i.Concerns (here ++ q) found := by
    obtain ⟨q, m, found, hr, hann, hc⟩ := ih
    refine ⟨part.segment :: q, m, found, .part hp hr, hann, ?_⟩
    rwa [Path.child, List.append_assoc] at hc
  induction h with
  | required h hd => exact hself (n := .spec _) (by decide) rfl
  | wrongType h ht hv => exact hself (by decide) ⟨_, rfl⟩
  | pattern h hs ht => exact hself (n := .spec _) (by decide) ⟨_, rfl⟩
  | aboveMax k hv => exact hself (n := .spec _) (by cases k <;> decide) (k.finds_of_size? hv).1
  | belowMin k hv => exact hself (n := .spec _) (by cases k <;> decide) (k.finds_of_size? hv).2
  | outOfRange h hb =>
    obtain ⟨hc, hf⟩ := Limits.finds_of_mem_ranges h
    exact hself (n := .spec _) hc hf
  | noMember h => exact hself (by decide) trivial
  | @unexpectedKey s ms key here _ hk _ =>
    refine ⟨[], .spec s, _, .here _ _, rfl, .key rfl ?_ rfl hk⟩
    rw [List.append_nil]
    rfl
  | item h hx hr ih => exact hpart (Items.mem_parts_iff.mpr ⟨_, _, _, h, hx, rfl⟩) (ih hi)
  | @property _ _ _ ms _ _ _ _ h hn hr ih =>
    exact hpart (Spec.mem_parts_object (by rw [h]; exact hn) ms) (ih hi)
  | alternative _ _ hschema =>
    rw [hschema] at hi
    cases hi
  | properties | requireType | unknownType | malformedType | unreadPattern | maxNotNumber
  | minNotNumber | vacuous | insideEnum | nestedList => cases hi

theorem Part.select?_eq {s : Spec} {part : Part} (h : part ∈ s.parts v) :
    part.segment.select? v = part.value := by
  cases v with
  | array xs =>
    obtain ⟨k, node, x, _, hx, rfl⟩ := Items.mem_parts_iff.mp h
    exact hx
  | object ms =>
    obtain ⟨e, _, rfl⟩ := List.mem_map.mp h
    rfl
  | null | bool | number | string => cases h

/-- Only a member of an object can be absent. -/
theorem Part.absent {s : Spec} {part : Part} (h : part ∈ s.parts v) (hv : part.value = none) :
    ∃ (key : String) (ms : Table Json), v = .object ms ∧ part.segment = .key key ∧
      ms.get? key = none := by
  cases v with
  | array xs =>
    obtain ⟨k, node, x, _, _, rfl⟩ := Items.mem_parts_iff.mp h
    cases hv
  | object ms =>
    obtain ⟨e, _, rfl⟩ := List.mem_map.mp h
    exact ⟨e.1, ms, rfl, rfl, hv⟩
  | null | bool | number | string => cases h

theorem Reaches.of_absent (h : Reaches n none q m found) : q = [] ∧ found = none := by
  cases h
  exact ⟨rfl, rfl⟩

/-- The path leads through the input to what is found. -/
theorem Reaches.lookup?_eq (h : Reaches n (some v) q m found) : q.lookup? v = found := by
  generalize hinput : some v = input at h
  induction h generalizing v with
  | here => exact hinput
  | @part s w part q m found hp hr ih =>
    cases hinput
    rw [Path.lookup?, Part.select?_eq hp]
    cases hpart : part.value with
    | some u => exact ih hpart.symm
    | none =>
      rw [hpart] at hr
      rw [hr.of_absent.2]
      rfl

/-- What is absent is a member of an object that is there. -/
theorem Reaches.absent (h : Reaches n (some v) q m found) (hfound : found = none) :
    ∃ (q' : Path) (key : String) (ms : Table Json), q = q'.child (.key key) ∧
      q'.lookup? v = some (.object ms) ∧ ms.get? key = none := by
  generalize hinput : some v = input at h
  induction h generalizing v with
  | here => cases hinput.trans hfound
  | @part s w part q m found hp hr ih =>
    cases hinput
    cases hpart : part.value with
    | none =>
      obtain ⟨key, ms, rfl, hsegment, hkey⟩ := Part.absent hp hpart
      rw [hpart] at hr
      rw [hr.of_absent.1, hsegment]
      exact ⟨[], key, ms, rfl, rfl, hkey⟩
    | some u =>
      obtain ⟨q', key, ms, rfl, hlookup, hkey⟩ := ih hfound hpart.symm
      refine ⟨part.segment :: q', key, ms, rfl, ?_, hkey⟩
      rw [Path.lookup?, Part.select?_eq hp, hpart]
      exact hlookup

end

mutual

/-- No array of a document has more items than a word can count. -/
def Json.fits : Json → Bool
  | .array xs => decide (xs.length ≤ UInt64.size) && itemsFit xs
  | .object ms => membersFit ms
  | _ => true
termination_by structural v => v

def itemsFit : List Json → Bool
  | [] => true
  | v :: rest => v.fits && itemsFit rest
termination_by structural vs => vs

def membersFit : List (String × Json) → Bool
  | [] => true
  | (_, v) :: rest => v.fits && membersFit rest
termination_by structural ms => ms

end

theorem fits_of_mem_items {xs : List Json} {x : Json} (h : itemsFit xs = true) (hx : x ∈ xs) :
    x.fits = true := by
  induction xs with
  | nil => cases hx
  | cons v rest ih =>
    rw [itemsFit, Bool.and_eq_true] at h
    rcases List.mem_cons.mp hx with rfl | hx
    · exact h.1
    · exact ih h.2 hx

theorem fits_of_mem_members {ms : Table Json} {key : String} {x : Json}
    (h : membersFit ms = true) (hx : (key, x) ∈ ms) : x.fits = true := by
  induction ms with
  | nil => cases hx
  | cons e rest ih =>
    obtain ⟨k, v⟩ := e
    rw [membersFit, Bool.and_eq_true] at h
    rcases List.mem_cons.mp hx with hx | hx
    · cases hx
      exact h.1
    · exact ih h.2 hx

theorem Part.fits {s : Spec} {v : Json} {part : Part} (h : part ∈ s.parts v)
    (hv : v.fits = true) : part.segment.Fits ∧ ∀ x, part.value = some x → x.fits = true := by
  cases v with
  | array xs =>
    obtain ⟨k, node, x, _, hx, rfl⟩ := Items.mem_parts_iff.mp h
    rw [Json.fits, Bool.and_eq_true, decide_eq_true_eq] at hv
    have hk : k < xs.length := (List.getElem?_eq_some_iff.mp hx).1
    refine ⟨Nat.lt_of_lt_of_le hk hv.1, ?_⟩
    rintro _ ⟨⟩
    exact fits_of_mem_items hv.2 (List.mem_of_getElem? hx)
  | object ms =>
    obtain ⟨e, _, rfl⟩ := List.mem_map.mp h
    exact ⟨trivial, fun x hx => fits_of_mem_members hv (Table.mem_of_get? hx)⟩
  | null | bool | number | string => cases h

/-- Positions of items that are there are words. -/
theorem Reaches.fits {n m : Node} {v : Json} {q : Path} {found : Option Json}
    (h : Reaches n (some v) q m found) (hv : v.fits = true) : q.Fits := by
  generalize hinput : some v = input at h
  induction h generalizing v with
  | here => exact fun _ hs => by cases hs
  | @part s w part q m found hp hr ih =>
    cases hinput
    obtain ⟨hsegment, hvalue⟩ := Part.fits hp hv
    have hq : q.Fits := by
      cases hpart : part.value with
      | some u => exact ih (hvalue u hpart) hpart.symm
      | none =>
        rw [hpart] at hr
        rw [hr.of_absent.1]
        exact fun _ hs => by cases hs
    intro t ht
    rcases List.mem_cons.mp ht with rfl | ht
    · exact hsegment
    · exact hq t ht

/-- A report leads back to its place in the input of an extended schema. -/
structure Report.LeadsBack (r : Report) (extended : Node) (input : Json) : Prop where
  /-- There is a value at the path, or a required or enumerated member is absent
  from an object. -/
  place : (∃ v, r.path.lookup? input = some v) ∨
    (r.code = .required ∨ r.code = .enum) ∧ ∃ (q : Path) (key : String) (ms : Table Json),
      r.path = q.child (.key key) ∧ q.lookup? input = some (.object ms) ∧ ms.get? key = none
  required : r.code = .required → r.path.lookup? input = none
  text : r.code ∈ [.pattern, .minLength, .maxLength] →
    ∃ text, r.path.lookup? input = some (.string text)
  array : r.code ∈ [.minItems, .maxItems] → ∃ xs, r.path.lookup? input = some (.array xs)
  number : r.code ∈ [.minimum, .maximum, .exclusiveMinimum, .exclusiveMaximum] →
    ∃ n, r.path.lookup? input = some (.number n)
  key : r.code = .unexpectedKey → ∃ (q : Path) (key : String) (ms : Table Json),
    r.path = q.child (.key key) ∧ q.lookup? input = some (.object ms) ∧ key ∈ ms.keys
  /-- Every segment of the path leads to a part of the input; an unexpected key
  follows as the last one. -/
  walk : ∃ q m found, Reaches extended (some input) q m found ∧ r.annotations = m.annotations ∧
    (r.path = q ∨ r.code = .unexpectedKey ∧ ∃ key, r.path = q.child (.key key))
  /-- The written path leads to the same place. -/
  written : input.fits = true → r.path ≠ Path.root →
    ∃ p, Path.parse r.path.text = .ok p ∧ p.lookup? input = r.path.lookup? input

theorem IssueCode.Finds.cases {code : IssueCode} {found : Option Json} (h : code.Finds found) :
    (∃ v, found = some v) ∨ found = none ∧ (code = .required ∨ code = .enum) := by
  cases found with
  | some v => exact .inl ⟨v, rfl⟩
  | none =>
    right
    cases code with
    | required => exact ⟨rfl, .inl rfl⟩
    | enum => exact ⟨rfl, .inr rfl⟩
    | _ =>
      obtain ⟨_, h⟩ := h
      cases h

theorem IssueCode.finds_string {found : Option Json} :
    ∀ code ∈ [pattern, minLength, maxLength], code.Finds found →
      ∃ text, found = some (.string text) := by
  simp [Finds]

theorem IssueCode.finds_array {found : Option Json} :
    ∀ code ∈ [minItems, maxItems], code.Finds found → ∃ xs, found = some (.array xs) := by
  simp [Finds]

theorem IssueCode.finds_number {found : Option Json} :
    ∀ code ∈ [minimum, maximum, exclusiveMinimum, exclusiveMaximum], code.Finds found →
      ∃ n, found = some (.number n) := by
  simp [Finds]

section
variable {r : Report} {extended m : Node} {input : Json} {found : Option Json} {q : Path}

theorem Reaches.leadsBack_value (hr : Reaches extended (some input) q m found)
    (ha : r.annotations = m.annotations) (hp : r.path = q) (hc : r.code ≠ .unexpectedKey)
    (hf : r.code.Finds found) : r.LeadsBack extended input := by
  subst hp
  have hlookup : r.path.lookup? input = found := hr.lookup?_eq
  refine {
    place := ?place
    required := fun hcode => ?required
    text := fun hcode => hlookup ▸ IssueCode.finds_string r.code hcode hf
    array := fun hcode => hlookup ▸ IssueCode.finds_array r.code hcode hf
    number := fun hcode => hlookup ▸ IssueCode.finds_number r.code hcode hf
    key := fun h => absurd h hc
    walk := ⟨_, m, found, hr, ha, .inl rfl⟩
    written := fun hfits hne => ⟨r.path, Path.parse_text (hr.fits hfits) hne, rfl⟩ }
  case place =>
    rcases hf.cases with ⟨v, hv⟩ | ⟨hnone, hcode⟩
    · exact .inl ⟨v, hlookup.trans hv⟩
    · exact .inr ⟨hcode, hr.absent hnone⟩
  case required =>
    rw [hcode] at hf
    exact hlookup.trans hf

theorem Reaches.leadsBack_key {ms : Table Json} {key : String}
    (hr : Reaches extended (some input) q m found) (ha : r.annotations = m.annotations)
    (hc : r.code = .unexpectedKey) (hp : r.path = q.child (.key key))
    (hf : found = some (.object ms)) (hk : key ∈ ms.keys) : r.LeadsBack extended input := by
  have hparent : q.lookup? input = some (.object ms) := hr.lookup?_eq.trans hf
  have hvalue : ∃ v, r.path.lookup? input = some v := by
    rw [hp, Path.lookup?_child, hparent]
    cases hg : ms.get? key with
    | some v => exact ⟨v, hg⟩
    | none => exact absurd hk (Table.get?_eq_none_iff.mp hg)
  have hother {codes : List IssueCode} (h : .unexpectedKey ∉ codes) : r.code ∉ codes := hc ▸ h
  have hpath (h : input.fits = true) : r.path.Fits := by
    rw [hp]
    intro s hs
    rcases List.mem_append.mp hs with hs | hs
    · exact hr.fits h s hs
    · cases List.mem_singleton.mp hs
      trivial
  exact {
    place := .inl hvalue
    required := fun h => by cases hc.symm.trans h
    text := fun h => absurd h (hother (by decide))
    array := fun h => absurd h (hother (by decide))
    number := fun h => absurd h (hother (by decide))
    key := fun _ => ⟨q, key, ms, hp, hparent, hk⟩
    walk := ⟨q, m, found, hr, ha, .inr ⟨hc, key, hp⟩⟩
    written := fun hfits hne => ⟨r.path, Path.parse_text (hpath hfits) hne, rfl⟩ }

end

/-- A report about the input leads back to its place there: what is found has
the kind that the code speaks of, no alternative of an enumeration has left a
segment in the path, and the written path leads to the same place. -/
theorem data_report_leads_back (matcher? : String → Option (String → Bool)) (c : Catalog)
    (schema : Node) (input : Json) (r : Report)
    (h : validateWith matcher? c schema input = .error r) (hd : r.domain = .data) :
    ∃ extended, extendUnder c schema input = .ok extended ∧ r.LeadsBack extended input := by
  obtain ⟨i, hi, rfl⟩ := validateWith_eq_error_iff.mp h
  rcases bind_eq_error_iff.mp hi with hextend | ⟨extended, hextend, hcheck⟩
  · -- The extension has only issues about the schema.
    have hschema : i.domain = .schema := (schema.extend_stops matcher? i hextend).2.1
    cases hschema.symm.trans hd
  · have hraises := (checkNode_raises _ extended (some input) Path.root false i hcheck).2
    obtain ⟨q, m, found, hr, ha, hc⟩ := hraises.reaches hd
    refine ⟨extended, (extendUnder_eq_ok_iff matcher?).mpr hextend, ?_⟩
    cases hc with
    | value hp hc hf => exact hr.leadsBack_value ha hp hc hf
    | key hc hp hf hk => exact hr.leadsBack_key ha hc hp hf hk

/-- A list of the literal `x` and of objects whose member `k` is a string. -/
def textOrObjectItems : Node :=
  .spec { Spec.ofTag "object" with properties := .declared [("list", .spec {
    Spec.ofTag "array" with items := .each (.enum [.literal (.string "x"), .alternative {
      Spec.ofTag "object" with properties := .declared [("k", .tag "string")] }]) })] }

/-- The alternative stops inside of the member `k`; what is reported is the item
that fits no alternative. -/
theorem textOrObjectItems_leads_back :
    ∃ r, validateWith (fun _ => none) Catalog.builtin textOrObjectItems
      (.object [("list", .array [.string "x", .object [("k", .bool true)]])]) = .error r ∧
      r.domain = .data ∧ r.path = [.key "list", .index 1] ∧
      ∃ p, Path.parse r.path.text = .ok p ∧
        p.lookup? (.object [("list", .array [.string "x", .object [("k", .bool true)]])]) =
          some (.object [("k", .bool true)]) := by
  have hcheck : check (Catalog.builtin.policy fun _ => none) textOrObjectItems
      (.object [("list", .array [.string "x", .object [("k", .bool true)]])]) =
      .error (dataIssue .enum [.key "list", .index 1] {} [("enums", "x, object")]) := by
    cbv
  have hreport := validateWith_eq_error_iff.mpr ⟨_, hcheck, rfl⟩
  obtain ⟨extended, _, hback⟩ := data_report_leads_back _ _ _ _ _ hreport rfl
  obtain ⟨p, hp, hlookup⟩ := hback.written (by decide) (by decide)
  exact ⟨_, hreport, rfl, rfl, p, hp, hlookup.trans rfl⟩

end Conform
