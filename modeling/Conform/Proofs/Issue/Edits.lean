import Conform.Proofs.Issue.Overlay

/-!
# Catalogs under edits

A catalog is edited by setting and unsetting single templates and by laying other
catalogs over it.  Each edit acts on the table of a domain alone, and on an entry
it either says what becomes of it or leaves it as it is.  So after any run of
edits the last one that touches a template decides about it, and names that are
no code are kept but are never asked for.
-/
namespace Conform.Catalog

/-- An edit of a catalog.  What is laid over it has no name twice. -/
inductive Edit where
  | set (domain : Domain) (code : IssueCode) (template : String)
  | unset (domain : Domain) (code : IssueCode)
  | merge (overrides : Catalog) (distinct : overrides.Distinct)

namespace Edit

def apply (c : Catalog) : Edit → Catalog
  | .set domain code template => c.set domain code template
  | .unset domain code => c.unset domain code
  | .merge overrides _ => c.merge overrides

/-- What the edit makes of the table of a domain. -/
def edited (domain : Domain) (t : Table String) : Edit → Table String
  | .set d code template => if d = domain then t.insert code.name template else t
  | .unset d code => if d = domain then t.erase code.name else t
  | .merge overrides _ => t.merge (overrides.table domain)

/-- The edit is about the domain. -/
def concerns (domain : Domain) : Edit → Bool
  | .set d _ _ => d = domain
  | .unset d _ => d = domain
  | .merge overrides _ => !(overrides.table domain).isEmpty

/-- The template that a catalog which is laid over has for a name. -/
def brought? (domain : Domain) (name : String) : Edit → Option String
  | .merge overrides _ => (overrides.table domain).get? name
  | _ => none

/-- What the edit says about a name, if it touches it: the template, or that there is none. -/
def given? (domain : Domain) (name : String) : Edit → Option (Option String)
  | .set d code template => if d = domain ∧ code.name = name then some (some template) else none
  | .unset d code => if d = domain ∧ code.name = name then some none else none
  | .merge overrides distinct => (brought? domain name (.merge overrides distinct)).map some

variable {c : Catalog} {domain : Domain} {name : String}

theorem table_apply (e : Edit) : (e.apply c).table domain = e.edited domain (c.table domain) := by
  cases e with
  | set d code template => cases d <;> cases domain <;> rfl
  | unset d code => cases d <;> cases domain <;> rfl
  | merge overrides distinct => exact table_merge c overrides domain

theorem edited_of_not_concerns {e : Edit} (h : e.concerns domain = false) (t : Table String) :
    e.edited domain t = t := by
  cases e with
  | set d code template => exact if_neg (of_decide_eq_false h)
  | unset d code => exact if_neg (of_decide_eq_false h)
  | merge overrides distinct =>
    have hnone : overrides.table domain = [] := by simpa [concerns] using h
    rw [edited, hnone, Table.merge_nil]

theorem nodup_edited (e : Edit) {t : Table String} (h : t.keys.Nodup) :
    (e.edited domain t).keys.Nodup := by
  cases e with
  | set d code template =>
    rw [edited]
    split
    · exact Table.nodup_keys_insert h
    · exact h
  | unset d code =>
    rw [edited]
    split
    · exact Table.nodup_keys_filter h _
    · exact h
  | merge overrides distinct => exact Table.nodup_keys_merge h

/-- An entry is what the edit says about it, or what it was. -/
theorem get?_edited (e : Edit) (t : Table String) :
    (e.edited domain t).get? name = (e.given? domain name).getD (t.get? name) := by
  cases e with
  | set d code template =>
    by_cases hd : d = domain
    · by_cases hname : code.name = name <;> simp [edited, given?, Table.get?_insert, hd, hname]
    · simp [edited, given?, hd]
  | unset d code =>
    by_cases hd : d = domain
    · by_cases hname : code.name = name <;> simp [edited, given?, Table.get?_erase, hd, hname]
    · simp [edited, given?, hd]
  | merge overrides distinct =>
    rw [edited, Table.get?_merge_of_nodup _ (distinct domain), given?, brought?]
    cases (overrides.table domain).get? name <;> rfl

/-- Setting and unsetting touch no name but that of a code. -/
theorem given?_of_foreign (h : IssueCode.parse? name = none) (e : Edit) :
    e.given? domain name = (e.brought? domain name).map some := by
  have hne (code : IssueCode) : code.name ≠ name := by
    rintro rfl
    simp at h
  cases e with
  | set d code template => simp [given?, brought?, hne]
  | unset d code => simp [given?, brought?, hne]
  | merge overrides distinct => rfl

end Edit

/-- The catalog after some edits. -/
def run (c : Catalog) (edits : List Edit) : Catalog := edits.foldl Edit.apply c

section
variable {c : Catalog} {domain : Domain} {name : String}

theorem table_run (c : Catalog) (domain : Domain) (edits : List Edit) :
    (c.run edits).table domain = edits.foldl (Edit.edited domain) (c.table domain) := by
  induction edits generalizing c with
  | nil => rfl
  | cons e rest ih => exact (ih (e.apply c)).trans (by rw [e.table_apply, List.foldl_cons])

theorem Distinct.run (h : c.Distinct) (edits : List Edit) : (c.run edits).Distinct := by
  intro domain
  rw [table_run]
  exact List.foldlRecOn (motive := fun t : Table String => t.keys.Nodup) edits _ (h domain)
    fun _ ht e _ => e.nodup_edited ht

/-- Only the edits about a domain change its table. -/
theorem table_run_filter (c : Catalog) (domain : Domain) (edits : List Edit) :
    (c.run (edits.filter (Edit.concerns domain))).table domain = (c.run edits).table domain := by
  rw [table_run, table_run, List.foldl_filter]
  congr 1
  funext t e
  split
  · rfl
  · rename_i h
    exact (Edit.edited_of_not_concerns (eq_false_of_ne_true h) t).symm

/-- The last edit that touches an entry decides about it. -/
theorem get?_run (c : Catalog) (edits : List Edit) (domain : Domain) (name : String) :
    ((c.run edits).table domain).get? name =
      (edits.reverse.findSome? (Edit.given? domain name)).getD ((c.table domain).get? name) := by
  rw [table_run]
  generalize c.table domain = t
  induction edits generalizing t with
  | nil => rfl
  | cons e rest ih =>
    rw [List.foldl_cons, ih, Edit.get?_edited, List.reverse_cons, List.findSome?_append]
    cases rest.reverse.findSome? (Edit.given? domain name) with
    | some given => rfl
    | none => simp

/-- An entry under a name that is no code is kept until a catalog with another one is laid
over it. -/
theorem get?_run_of_foreign (h : IssueCode.parse? name = none) (c : Catalog) (edits : List Edit)
    (domain : Domain) : ((c.run edits).table domain).get? name =
      (edits.reverse.findSome? (Edit.brought? domain name)).or ((c.table domain).get? name) := by
  have hgiven : Edit.given? domain name = Option.map some ∘ Edit.brought? domain name :=
    funext (Edit.given?_of_foreign h)
  rw [get?_run, hgiven, ← List.map_findSome?]
  cases edits.reverse.findSome? (Edit.brought? domain name) <;> rfl

end

/-- The catalog without the entries under names that are no code. -/
def codesOnly (c : Catalog) : Catalog :=
  let known (t : Table String) := t.filter fun e => (IssueCode.parse? e.1).isSome
  ⟨known c.schema, known c.data⟩

theorem table_codesOnly (c : Catalog) (domain : Domain) : c.codesOnly.table domain =
    (c.table domain).filter fun e => (IssueCode.parse? e.1).isSome := by
  cases domain <;> rfl

theorem get?_codesOnly (c : Catalog) (domain : Domain) (code : IssueCode) :
    (c.codesOnly.table domain).get? code.name = (c.table domain).get? code.name := by
  rw [table_codesOnly, Table.get?_filter _ fun name => (IssueCode.parse? name).isSome]
  simp

theorem Distinct.codesOnly {c : Catalog} (h : c.Distinct) : c.codesOnly.Distinct := by
  intro domain
  rw [table_codesOnly]
  exact Table.nodup_keys_filter (h domain) _

/-- The edit without entries under names that are no code. -/
def Edit.codesOnly : Edit → Edit
  | .merge overrides distinct => .merge overrides.codesOnly distinct.codesOnly
  | e => e

theorem Edit.given?_codesOnly (e : Edit) (domain : Domain) (code : IssueCode) :
    e.codesOnly.given? domain code.name = e.given? domain code.name := by
  cases e with
  | set d code' template => rfl
  | unset d code' => rfl
  | merge overrides distinct =>
    exact congrArg (Option.map some) (get?_codesOnly overrides domain code)

/-- No template depends on an entry under a name that is no code. -/
theorem template?_run_codesOnly (c : Catalog) (edits : List Edit) (domain : Domain)
    (code : IssueCode) : (c.codesOnly.run (edits.map Edit.codesOnly)).template? domain code =
      (c.run edits).template? domain code := by
  have hgiven : Edit.given? domain code.name ∘ Edit.codesOnly = Edit.given? domain code.name :=
    funext fun e => e.given?_codesOnly domain code
  rw [template?, template?, get?_run, get?_run, ← List.map_reverse, List.findSome?_map, hgiven,
    get?_codesOnly]

/-- Two catalogs with the same tables are the same. -/
theorem eq_of_table_eq {a b : Catalog} (h : ∀ domain, a.table domain = b.table domain) : a = b := by
  obtain ⟨schema, data⟩ := a
  obtain rfl : schema = b.schema := h .schema
  obtain rfl : data = b.data := h .data
  rfl

section
variable {a b d : Catalog}

theorem merge_assoc (ha : a.Distinct) (hb : b.Distinct) (hd : d.Distinct) :
    (a.merge b).merge d = a.merge (b.merge d) := by
  apply eq_of_table_eq
  intro domain
  simp only [table_merge]
  exact Table.merge_assoc (ha domain) (hb domain) (hd domain)

theorem empty_merge (ha : a.Distinct) : empty.merge a = a := by
  apply eq_of_table_eq
  intro domain
  rw [table_merge]
  cases domain with
  | schema => exact Table.nil_merge (ha .schema)
  | data => exact Table.nil_merge (ha .data)

theorem merge_empty (a : Catalog) : a.merge empty = a := rfl

theorem merge_self (ha : a.Distinct) : a.merge a = a := by
  apply eq_of_table_eq
  intro domain
  rw [table_merge]
  exact Table.merge_self (ha domain)

end

/-- After any edits a template is what the last edit that touches it says, or what it was
before.  A domain changes by the edits about it alone; entries under names that are no code
stay until one is laid over them, and no template depends on them; and catalogs are a monoid
under merging, in which merging the same catalog again changes nothing. -/
theorem last_edit_decides (c : Catalog) (edits : List Edit) :
    (∀ domain code, (c.run edits).template? domain code =
      (edits.reverse.findSome? (Edit.given? domain code.name)).getD (c.template? domain code)) ∧
    (∀ domain, (c.run (edits.filter (Edit.concerns domain))).table domain =
      (c.run edits).table domain) ∧
    (∀ domain name, IssueCode.parse? name = none → ((c.run edits).table domain).get? name =
      (edits.reverse.findSome? (Edit.brought? domain name)).or ((c.table domain).get? name)) ∧
    (∀ domain code, (c.codesOnly.run (edits.map Edit.codesOnly)).template? domain code =
      (c.run edits).template? domain code) ∧
    (c.Distinct → (c.run edits).Distinct) ∧
    ∀ a b d : Catalog, a.Distinct → b.Distinct → d.Distinct →
      (a.merge b).merge d = a.merge (b.merge d) ∧ empty.merge a = a ∧ a.merge empty = a ∧
        a.merge a = a := by
  refine ⟨fun domain code => get?_run c edits domain code.name,
    fun domain => table_run_filter c domain edits,
    fun domain name h => get?_run_of_foreign h c edits domain,
    template?_run_codesOnly c edits, fun h => h.run edits, ?_⟩
  intro a b d ha hb hd
  exact ⟨merge_assoc ha hb hd, empty_merge ha, merge_empty a, merge_self ha⟩

/-- A template for an absent value, and an entry under a name that is no code. -/
def requiredText : Catalog := ⟨[], [("required", "$path is needed"), ("colour", "blue")]⟩

theorem distinct_requiredText : requiredText.Distinct := by
  intro domain
  cases domain <;> decide

/-- A template that is taken out and comes back with a catalog, one that is set and taken out,
and one for the other domain. -/
def mixedEdits : List Edit :=
  [.unset .data .required, .set .data .enum "$path is odd",
    .merge requiredText distinct_requiredText, .unset .data .enum, .set .schema .enum "$path is no list"]

/-- The last edit of each template decides, the unknown name stays, and the edit of the other
domain can be left out. -/
theorem last_edit_decides_mixedEdits :
    (builtin.run mixedEdits).template? .data .required = some "$path is needed" ∧
    (builtin.run mixedEdits).template? .data .enum = none ∧
    (builtin.run mixedEdits).template? .data .typeof = some "$path must be of type $type" ∧
    (builtin.run mixedEdits).table .data = (builtin.run (mixedEdits.take 4)).table .data ∧
    IssueCode.parse? "colour" = none ∧
    ((builtin.run mixedEdits).table .data).get? "colour" = some "blue" ∧
    builtin.Distinct ∧ (builtin.run mixedEdits).Distinct ∧
    (builtin.merge requiredText).merge requiredText =
      builtin.merge (requiredText.merge requiredText) := by
  obtain ⟨htemplate, htable, hforeign, -, hdistinct, hmerge⟩ :=
    last_edit_decides builtin mixedEdits
  have hcolour : IssueCode.parse? "colour" = none := by decide
  have hbuiltin : builtin.Distinct := by
    intro domain
    cases domain <;> decide
  exact ⟨(htemplate ..).trans rfl, (htemplate ..).trans rfl, (htemplate ..).trans rfl,
    (htable .data).symm, hcolour, (hforeign .data _ hcolour).trans rfl, hbuiltin,
    hdistinct hbuiltin, (hmerge _ _ _ hbuiltin distinct_requiredText distinct_requiredText).1⟩

end Conform.Catalog
