import Conform.Issue.Report
import Mathlib.Data.List.Nodup

/-!
# Reports read back

A report is written as an object that has each of its fields at most once, and
so every field is found again with its value, or found missing.  Only null is
written and not read: an annotation that is null reads as absent, and a report
that was read has none.
-/
namespace Conform

namespace Annotations

/-- Annotations with null counted as absent. -/
def present (a : Annotations) : Annotations where
  title := Report.presence a.title
  description := Report.presence a.description
  examples := Report.presence a.examples
  default := Report.presence a.default

/-- Some annotation is null. -/
def HasNull (a : Annotations) : Prop :=
  some .null ∈ [a.title, a.description, a.examples, a.default]

end Annotations

namespace Report

theorem presence_eq_self_iff {v : Option Json} : presence v = v ↔ some .null ≠ v := by
  rcases v with _ | v
  · simp [presence]
  · cases v <;> simp [presence, Option.filter, Json.isNull]

theorem presence_presence (v : Option Json) : presence (presence v) = presence v := by
  simp [presence, Option.filter_filter]

end Report

theorem Annotations.present_eq_self_iff {a : Annotations} : a.present = a ↔ ¬ a.HasNull := by
  obtain ⟨title, description, examples, default⟩ := a
  simp [present, HasNull, Report.presence_eq_self_iff]

namespace Report

/-- Fields with the values that are present. -/
def written (fields : List (String × Option Json)) : List (String × Json) :=
  fields.filterMap fun f => f.2.map fun v => (f.1, v)

theorem filter_written_of_not_mem {fields : List (String × Option Json)} {name : String}
    (h : name ∉ fields.map Prod.fst) : ((written fields).filter fun m => m.1 = name) = [] := by
  rw [List.filter_eq_nil_iff]
  intro m hm
  obtain ⟨f, hf, hv⟩ := List.mem_filterMap.mp hm
  obtain ⟨v, -, rfl⟩ := Option.map_eq_some_iff.mp hv
  simp only [decide_eq_true_eq]
  rintro rfl
  exact h (List.mem_map.mpr ⟨f, hf, rfl⟩)

/-- Where no field is named twice, each is found with its value. -/
theorem field?_written {fields : List (String × Option Json)} {name : String} {v : Option Json}
    (hdistinct : (fields.map Prod.fst).Nodup) (h : (name, v) ∈ fields) :
    field? (written fields) name = some v := by
  have hfilter : ((written fields).filter fun m => m.1 = name) =
      (v.map fun v => (name, v)).toList := by
    induction fields with
    | nil => cases h
    | cons f rest ih =>
      obtain ⟨other, w⟩ := f
      obtain ⟨hnot, hrest⟩ := List.nodup_cons.mp hdistinct
      by_cases hname : other = name
      · subst hname
        have hv : w = v := by
          rcases List.mem_cons.mp h with h | h
          · cases h
            rfl
          · exact absurd (List.mem_map.mpr ⟨_, h, rfl⟩) hnot
        have hothers := filter_written_of_not_mem hnot
        subst hv
        cases w <;> simpa [written] using hothers
      · have hmem : (name, v) ∈ rest := by
          rcases List.mem_cons.mp h with h | h
          · cases h
            exact absurd rfl hname
          · exact h
        rw [← ih hrest hmem]
        cases w <;> simp [written, hname]
  rw [field?, hfilter]
  cases v <;> rfl

/-- All fields of a report. -/
def fields (r : Report) : List (String × Option Json) :=
  [("domain", some (.string r.domain.name)), ("code", some (.string r.code.name)),
    ("path", some r.path.toJson), ("message", some (.string r.message)),
    ("title", r.annotations.title), ("description", r.annotations.description),
    ("examples", r.annotations.examples), ("default", r.annotations.default)]

theorem toJson_eq_written (r : Report) : r.toJson = .object (written r.fields) := by
  obtain ⟨domain, code, path, message, ⟨title, description, examples, default⟩⟩ := r
  cases title <;> cases description <;> cases examples <;> cases default <;> rfl

theorem ofFields?_fields (r : Report) :
    ofFields? (.string r.domain.name) (.string r.code.name) r.path.toJson (.string r.message)
      r.annotations.title r.annotations.description r.annotations.examples r.annotations.default =
      some { r with annotations := r.annotations.present } := by
  simp [ofFields?, Json.string?, IssueCode.ofJson?, Annotations.present]

/-- Nulls among the annotations are lost, and nothing else is. -/
theorem ofJson?_toJson (r : Report) :
    ofJson? r.toJson = some { r with annotations := r.annotations.present } := by
  have hdistinct : (r.fields.map Prod.fst).Nodup := by
    simp only [fields, List.map_cons, List.map_nil]
    decide
  have hfound : ∀ f ∈ r.fields, field? (written r.fields) f.1 = some f.2 :=
    fun f hf => field?_written hdistinct hf
  rw [toJson_eq_written, ofJson?]
  generalize written r.fields = ms at hfound
  simp only [fields, List.forall_mem_cons] at hfound
  obtain ⟨hdomain, hcode, hpath, hmessage, htitle, hdescription, hexamples, hdefault, -⟩ := hfound
  simp only [ofMembers?, hdomain, hcode, hpath, hmessage, htitle, hdescription, hexamples,
    hdefault, Option.bind_eq_bind, Option.bind_some]
  exact ofFields?_fields r

section
variable {r : Report}

theorem present_of_ofFields? {domain code path message : Json}
    {title description examples default : Option Json}
    (h : ofFields? domain code path message title description examples default = some r) :
    r.annotations.present = r.annotations := by
  simp only [ofFields?, Option.bind_eq_bind, Option.bind_eq_some_iff] at h
  obtain ⟨_, -, _, -, _, -, _, -, h⟩ := h
  cases h
  simp [Annotations.present, presence_presence]

theorem present_of_ofMembers? {ms : List (String × Json)} (h : ofMembers? ms = some r) :
    r.annotations.present = r.annotations := by
  simp only [ofMembers?, Option.bind_eq_bind, Option.bind_eq_some_iff] at h
  obtain ⟨_, -, _, -, _, -, _, -, _, -, _, -, _, -, _, -, _, -, _, -, _, -, _, -, h⟩ := h
  exact present_of_ofFields? h

theorem present_of_ofItems? {items : List Json} (h : ofItems? items = some r) :
    r.annotations.present = r.annotations := by
  unfold ofItems? at h
  split at h
  · split at h
    · exact present_of_ofFields? h
    · cases h
  · cases h

theorem present_of_ofJson? {v : Json} (h : ofJson? v = some r) :
    r.annotations.present = r.annotations := by
  cases v with
  | object ms => exact present_of_ofMembers? h
  | array items => exact present_of_ofItems? h
  | null | bool | number | string => cases h

theorem present_of_parse? {text : String} (h : parse? text = some r) :
    r.annotations.present = r.annotations := by
  obtain ⟨d, -, h⟩ := Option.bind_eq_some_iff.mp h
  cases d with
  | object members =>
    obtain ⟨ms, -, h⟩ := Option.bind_eq_some_iff.mp h
    exact present_of_ofMembers? h
  | array items =>
    obtain ⟨vs, -, h⟩ := Option.bind_eq_some_iff.mp h
    exact present_of_ofItems? h
  | null | bool | number | string => cases h

end

/-- Whatever the report, reading what it is written as gives it back with null
annotations absent, so it comes back as it is exactly if no annotation is null.
A report that was read, from a value or from a text, always comes back. -/
theorem written_report_reads_back :
    (∀ r : Report, ofJson? r.toJson = some { r with annotations := r.annotations.present }) ∧
    (∀ r : Report, ofJson? r.toJson = some r ↔ ¬ r.annotations.HasNull) ∧
    (∀ (v : Json) (r : Report), ofJson? v = some r → ofJson? r.toJson = some r) ∧
    ∀ (text : String) (r : Report), parse? text = some r → ofJson? r.toJson = some r := by
  have hsame (r : Report) : ofJson? r.toJson = some r ↔ r.annotations.present = r.annotations := by
    obtain ⟨_, _, _, _, annotations⟩ := r
    simp [ofJson?_toJson]
  refine ⟨ofJson?_toJson, fun r => ?_, fun v r h => ?_, fun text r h => ?_⟩
  · rw [hsame, Annotations.present_eq_self_iff]
  · exact (hsame r).mpr (present_of_ofJson? h)
  · exact (hsame r).mpr (present_of_parse? h)

end Report
end Conform
