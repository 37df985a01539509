import Conform.Issue.Template
import Conform.Table
import Mathlib.Data.List.Basic
import Mathlib.Data.List.TakeWhile

/-!
# How a text is rendered

A text is split into its placeholders in one way, each name being as long as it
can be.  Rendering goes through the split once from left to right: text is kept,
and what comes in for a placeholder is not looked at again.  So a text may be
rendered in two parts, unless a name goes over the cut.  A template whose
placeholders all have a parameter is filled without leaving any of them, and it
is enough to look at the names of the parameters to see that they do.
-/
namespace Conform.Template

/-- Every placeholder has one of the names. -/
def Asks (t : Template) (names : List String) : Prop :=
  ∀ slot ∈ t.slots, slot.1 ≠ [] ∧ String.ofList slot.1 ∈ names

instance (t : Template) (names : List String) : Decidable (t.Asks names) :=
  inferInstanceAs (Decidable (∀ slot ∈ t.slots, slot.1 ≠ [] ∧ String.ofList slot.1 ∈ names))

/-- Every placeholder has a parameter. -/
def Bound (params : List (String × String)) (t : Template) : Prop :=
  ∀ slot ∈ t.slots, slot.1 ≠ [] ∧ (params.lookup (String.ofList slot.1)).isSome

/-- The text with the parameter of each placeholder in its place. -/
def expansion (params : List (String × String)) (t : Template) : List Char :=
  t.text ++ t.slots.flatMap fun slot =>
    ((params.lookup (String.ofList slot.1)).getD "").toList ++ slot.2

section
variable {t : Template} {params : List (String × String)}

theorem Asks.bound (h : t.Asks (params.map Prod.fst)) : t.Bound params := by
  intro slot hslot
  obtain ⟨hname, hmem⟩ := h slot hslot
  obtain ⟨param, hparam, hfst⟩ := List.mem_map.mp hmem
  refine ⟨hname, List.lookup_isSome_iff.mpr ⟨param, hparam, ?_⟩⟩
  simp [hfst]

theorem value_eq {name : List Char} {v : String} (hname : name ≠ [])
    (h : params.lookup (String.ofList name) = some v) : value params name = v.toList := by
  unfold value
  cases name with
  | nil => exact absurd rfl hname
  | cons c rest => rw [h]

/-- No placeholder is left that stands for itself. -/
theorem Bound.fill_eq (h : t.Bound params) : t.fill params = t.expansion params := by
  unfold fill expansion
  congr 1
  apply List.flatMap_congr
  intro slot hslot
  obtain ⟨hname, hbound⟩ := h slot hslot
  obtain ⟨v, hv⟩ := Option.isSome_iff_exists.mp hbound
  rw [value_eq hname hv, hv, Option.getD_some]

end

/-- No name goes on with this text. -/
def NameEnds (cs : List Char) : Prop := ∀ c ∈ cs.head?, isNameChar c = false

/-- The text ends in a placeholder, which may go on. -/
inductive EndsInside : List Char → Prop where
  | intro (before : List Char) {name : List Char} (hname : ∀ c ∈ name, isNameChar c = true) :
    EndsInside (before ++ '$' :: name)

/-- Texts have no dollar signs, and names are as long as they can be. -/
structure WellSplit (t : Template) : Prop where
  text : '$' ∉ t.text
  names : ∀ slot ∈ t.slots, ∀ c ∈ slot.1, isNameChar c = true
  texts : ∀ slot ∈ t.slots, '$' ∉ slot.2
  longest : ∀ slot ∈ t.slots, NameEnds slot.2

/-- What a name comes to: the value of the first parameter with this name, or else
the placeholder itself. -/
inductive StandsFor (params : List (String × String)) : List Char → List Char → Prop where
  | value {name : List Char} {v : String} {before after : List (String × String)}
    (hname : name ≠ []) (h : params = before ++ (String.ofList name, v) :: after)
    (hbefore : String.ofList name ∉ before.map Prod.fst) : StandsFor params name v.toList
  | unknown {name : List Char} (h : String.ofList name ∉ params.map Prod.fst) :
    StandsFor params name ('$' :: name)
  | unnamed : StandsFor params [] ['$']

section
variable {cs name rest : List Char} {c : Char}

theorem isNameChar_dollar : isNameChar '$' = false := by decide

theorem nameEnds_nil : NameEnds [] := by
  rintro c ⟨⟩

theorem nameEnds_cons : NameEnds (c :: rest) ↔ isNameChar c = false := by
  simp [NameEnds]

instance (cs : List Char) : Decidable (NameEnds cs) :=
  match cs with
  | [] => .isTrue nameEnds_nil
  | _ :: _ => decidable_of_iff _ nameEnds_cons.symm

theorem NameEnds.append (h : NameEnds cs) (hrest : NameEnds rest) : NameEnds (cs ++ rest) := by
  cases cs with
  | nil => exact hrest
  | cons c cs => exact nameEnds_cons.mpr (nameEnds_cons.mp h)

theorem EndsInside.append_left (before : List Char) (h : EndsInside cs) :
    EndsInside (before ++ cs) := by
  cases h with
  | intro before' hname =>
    rw [← List.append_assoc]
    exact .intro _ hname

theorem dollar_not_mem_name (hname : ∀ c ∈ name, isNameChar c = true) : '$' ∉ name := by
  intro h
  cases isNameChar_dollar.symm.trans (hname _ h)

theorem takeWhile_name (hname : ∀ c ∈ name, isNameChar c = true) (h : NameEnds rest) :
    (name ++ rest).takeWhile isNameChar = name := by
  rw [List.takeWhile_append_of_pos hname]
  cases rest with
  | nil => simp
  | cons c rest => simp [nameEnds_cons.mp h]

theorem dropWhile_name (hname : ∀ c ∈ name, isNameChar c = true) (h : NameEnds rest) :
    (name ++ rest).dropWhile isNameChar = rest := by
  rw [List.dropWhile_append_of_pos hname]
  cases rest with
  | nil => simp
  | cons c rest => simp [nameEnds_cons.mp h]

theorem nameEnds_dropWhile (cs : List Char) : NameEnds (cs.dropWhile isNameChar) := by
  intro c hc
  have hhead := List.head?_dropWhile_not isNameChar cs
  rw [Option.mem_def.mp hc] at hhead
  exact hhead

/-- A property of texts holds of all of them if it is kept by a character that is
no dollar sign, and by a placeholder, in front of the text. -/
theorem text_induction {P : List Char → Prop} (nil : P [])
    (char : ∀ c rest, c ≠ '$' → P rest → P (c :: rest))
    (slot : ∀ name rest, (∀ c ∈ name, isNameChar c = true) → NameEnds rest → P rest →
      P ('$' :: (name ++ rest))) (cs : List Char) : P cs := by
  induction h : cs.length using Nat.strongRecOn generalizing cs with
  | ind n ih =>
    cases cs with
    | nil => exact nil
    | cons c rest =>
      rw [List.length_cons] at h
      by_cases hc : c = '$'
      · -- The name is the longest one, and what is left is shorter.
        have hdrop : (rest.dropWhile isNameChar).length < n := by
          have := (List.dropWhile_sublist isNameChar (l := rest)).length_le
          omega
        have hname : ∀ c ∈ rest.takeWhile isNameChar, isNameChar c = true :=
          fun c h => List.mem_takeWhile_imp h
        have := slot _ _ hname (nameEnds_dropWhile rest) (ih _ hdrop _ rfl)
        rwa [List.takeWhile_append_dropWhile, ← hc] at this
      · exact char c rest hc (ih rest.length (by omega) rest rfl)

/-- The split of a text goes on with that of what follows. -/
theorem split_cons (hc : c ≠ '$') :
    split (c :: rest) = ⟨c :: (split rest).text, (split rest).slots⟩ := by
  rw [split, if_neg hc]

theorem split_append (h : '$' ∉ cs) :
    split (cs ++ rest) = ⟨cs ++ (split rest).text, (split rest).slots⟩ := by
  induction cs with
  | nil => rfl
  | cons c cs ih =>
    rw [List.mem_cons, not_or] at h
    rw [List.cons_append, split_cons (Ne.symm h.1), ih h.2]
    rfl

theorem NameEnds.split_text (h : NameEnds cs) : NameEnds (split cs).text := by
  cases cs with
  | nil => exact nameEnds_nil
  | cons c rest =>
    by_cases hc : c = '$'
    · rw [split, if_pos hc]
      exact nameEnds_nil
    · rw [split_cons hc]
      exact nameEnds_cons.mpr (nameEnds_cons.mp h)

theorem split_slot (hname : ∀ c ∈ name, isNameChar c = true) (h : NameEnds rest) :
    split ('$' :: (name ++ rest)) = ⟨[], (name, (split rest).text) :: (split rest).slots⟩ := by
  rw [split, if_pos rfl, split_append (dollar_not_mem_name hname),
    takeWhile_name hname h.split_text, dropWhile_name hname h.split_text]

theorem split_wellSplit (cs : List Char) : (split cs).WellSplit := by
  induction cs using text_induction with
  | nil => exact ⟨by simp [split], by simp [split], by simp [split], by simp [split]⟩
  | char c rest hc ih =>
    rw [split_cons hc]
    exact ⟨List.not_mem_cons_of_ne_of_not_mem hc.symm ih.text, ih.names, ih.texts, ih.longest⟩
  | slot name rest hname hrest ih =>
    rw [split_slot hname hrest]
    exact ⟨List.not_mem_nil, List.forall_mem_cons.mpr ⟨hname, ih.names⟩,
      List.forall_mem_cons.mpr ⟨ih.text, ih.texts⟩,
      List.forall_mem_cons.mpr ⟨hrest.split_text, ih.longest⟩⟩

theorem source_cons (text name next : List Char) (slots : List (List Char × List Char)) :
    source ⟨text, (name, next) :: slots⟩ = text ++ '$' :: (name ++ source ⟨next, slots⟩) := by
  simp [source]

theorem nameEnds_source {text : List Char} {slots : List (List Char × List Char)}
    (h : NameEnds text) : NameEnds (source ⟨text, slots⟩) := by
  refine h.append ?_
  cases slots with
  | nil => exact nameEnds_nil
  | cons slot slots => exact nameEnds_cons.mpr isNameChar_dollar

/-- There is no other way to split the text. -/
theorem WellSplit.split_source {t : Template} (h : t.WellSplit) : split t.source = t := by
  obtain ⟨text, slots⟩ := t
  induction slots generalizing text with
  | nil =>
    have hsource : source ⟨text, []⟩ = text ++ [] := rfl
    rw [hsource, split_append h.text, split, List.append_nil]
  | cons slot slots ih =>
    obtain ⟨name, next⟩ := slot
    have hname := (List.forall_mem_cons.mp h.names).1
    have hends : NameEnds (source ⟨next, slots⟩) :=
      nameEnds_source (List.forall_mem_cons.mp h.longest).1
    have hnext : WellSplit ⟨next, slots⟩ :=
      ⟨(List.forall_mem_cons.mp h.texts).1, (List.forall_mem_cons.mp h.names).2,
        (List.forall_mem_cons.mp h.texts).2, (List.forall_mem_cons.mp h.longest).2⟩
    rw [source_cons, split_append h.text, split_slot hname hends, ih next hnext, List.append_nil]

theorem split_eq_iff {t : Template} : split cs = t ↔ t.WellSplit ∧ t.source = cs := by
  constructor
  · rintro rfl
    exact ⟨split_wellSplit cs, source_split cs⟩
  · rintro ⟨h, rfl⟩
    exact h.split_source

end

section
variable {params : List (String × String)} {name rest a b : List Char} {c : Char}

theorem fill_split_cons (hc : c ≠ '$') :
    (split (c :: rest)).fill params = c :: (split rest).fill params := by
  rw [split_cons hc]
  rfl

theorem fill_split_slot (hname : ∀ c ∈ name, isNameChar c = true) (h : NameEnds rest) :
    (split ('$' :: (name ++ rest))).fill params =
      value params name ++ (split rest).fill params := by
  rw [split_slot hname h]
  simp [fill]

/-- A text is filled in two parts unless a name may go over the cut. -/
theorem fill_split_append (h : NameEnds b ∨ ¬ EndsInside a) :
    (split (a ++ b)).fill params = (split a).fill params ++ (split b).fill params := by
  induction a using text_induction with
  | nil => rfl
  | char c rest hc ih =>
    have hrest := ih (h.imp_right fun h hrest => h (hrest.append_left [c]))
    rw [List.cons_append, fill_split_cons hc, fill_split_cons hc, hrest, List.cons_append]
  | slot name rest hname hends ih =>
    have hrest := ih (h.imp_right fun h hrest => h (hrest.append_left ('$' :: name)))
    have hboth : NameEnds (rest ++ b) := by
      cases rest with
      | nil =>
        -- The text ends in this placeholder, so the rest must not go on with its name.
        exact h.resolve_right fun h => h (by simpa using EndsInside.intro [] hname)
      | cons c rest => exact nameEnds_cons.mpr (nameEnds_cons.mp hends)
    rw [List.cons_append, List.append_assoc, fill_split_slot hname hboth, hrest,
      fill_split_slot hname hends, List.append_assoc]

theorem lookup_eq_some_iff_first {name v : String} : params.lookup name = some v ↔
    ∃ before after, params = before ++ (name, v) :: after ∧ name ∉ before.map Prod.fst := by
  simp only [List.lookup_eq_some_iff, bne_iff_ne, List.mem_map, not_exists, not_and, ne_comm]

theorem value_eq_iff {out : List Char} : value params name = out ↔ StandsFor params name out := by
  constructor
  · rintro rfl
    cases name with
    | nil => exact .unnamed
    | cons c name =>
      unfold value
      cases h : params.lookup (String.ofList (c :: name)) with
      | none => exact .unknown (Table.get?_eq_none_iff.mp h)
      | some v =>
        obtain ⟨before, after, hparams, hbefore⟩ := lookup_eq_some_iff_first.mp h
        exact .value (List.cons_ne_nil c name) hparams hbefore
  · rintro (⟨hname, hparams, hbefore⟩ | hunknown | _)
    · exact value_eq hname (lookup_eq_some_iff_first.mpr ⟨_, _, hparams, hbefore⟩)
    · have hnone : params.lookup (String.ofList name) = none :=
        Table.get?_eq_none_iff.mpr hunknown
      unfold value
      rw [hnone]
      cases name <;> rfl
    · rfl

/-- A template keeps its text if none of its names is that of a parameter. -/
theorem fill_of_unknown {t : Template} (h : ∀ slot ∈ t.slots, slot.1 ≠ [] →
    String.ofList slot.1 ∉ params.map Prod.fst) : t.fill params = t.source := by
  unfold fill source
  congr 1
  apply List.flatMap_congr
  intro slot hslot
  congr 1
  rw [value_eq_iff]
  by_cases hname : slot.1 = []
  · rw [hname]
    exact .unnamed
  · exact .unknown (h slot hslot hname)

end
end Conform.Template

namespace Conform
open Template

section
variable {params : List (String × String)} {a b name v : String}

theorem render_append (h : NameEnds b.toList ∨ ¬ EndsInside a.toList) :
    render (a ++ b) params = render a params ++ render b params := by
  rw [render, String.toList_append, fill_split_append h, String.ofList_append]
  rfl

/-- A value comes in as it is, whatever stands around its placeholder. -/
theorem render_placeholder (hne : name ≠ "") (hname : ∀ c ∈ name.toList, isNameChar c = true)
    (hb : NameEnds b.toList) (hv : params.lookup name = some v) :
    render (a ++ ("$" ++ name ++ b)) params = render a params ++ v ++ render b params := by
  have hdollar : NameEnds ("$" ++ name ++ b).toList := by
    simp [nameEnds_cons, isNameChar_dollar]
  have hnonempty : name.toList ≠ [] := by simpa using hne
  have hslot : ("$" ++ name ++ b).toList = '$' :: (name.toList ++ b.toList) := by simp
  have hvalue : render ("$" ++ name ++ b) params = v ++ render b params := by
    rw [render, hslot, fill_split_slot hname hb, value_eq hnonempty (by simpa using hv),
      String.ofList_append, String.ofList_toList]
    rfl
  rw [render_append (.inl hdollar), hvalue, String.append_assoc]

end

/-- Rendering substitutes once.  A template is split in one way into texts without
dollar signs and names that are as long as they can be; what it comes to is the
texts with what stands for the names.  A value comes in as it is, dollar signs
included; a template without the name of a parameter stays as it is; and what two
templates come to together is what they come to alone, unless a name goes over the
cut. -/
theorem render_substitutes_once (params : List (String × String)) :
    (∀ template : String, ∃! t : Template, t.WellSplit ∧ t.source = template.toList) ∧
    (∀ (template : String) (t : Template), t.WellSplit → t.source = template.toList →
      (render template params).toList =
        t.text ++ t.slots.flatMap fun slot => value params slot.1 ++ slot.2) ∧
    (∀ name out : List Char, value params name = out ↔ StandsFor params name out) ∧
    (∀ (a name b v : String) (before after : List (String × String)),
      params = before ++ (name, v) :: after → name ∉ before.map Prod.fst →
      name ≠ "" → (∀ c ∈ name.toList, isNameChar c = true) → NameEnds b.toList →
      render (a ++ ("$" ++ name ++ b)) params = render a params ++ v ++ render b params) ∧
    (∀ (template : String) (t : Template), t.WellSplit → t.source = template.toList →
      (∀ slot ∈ t.slots, slot.1 ≠ [] → String.ofList slot.1 ∉ params.map Prod.fst) →
      render template params = template) ∧
    ∀ a b : String, NameEnds b.toList ∨ ¬ EndsInside a.toList →
      render (a ++ b) params = render a params ++ render b params := by
  have hrender (template : String) (t : Template) (h : t.WellSplit)
      (hsource : t.source = template.toList) : (render template params).toList = t.fill params := by
    rw [render, String.toList_ofList, split_eq_iff.mpr ⟨h, hsource⟩]
  refine ⟨fun template => ?_, hrender, fun name out => value_eq_iff, ?_, ?_,
    fun a b => render_append⟩
  · refine ⟨split template.toList, split_eq_iff.mp rfl, fun t ht => ?_⟩
    exact (split_eq_iff.mpr ht).symm
  · intro a name b v before after hparams hbefore hne hname hb
    exact render_placeholder hne hname hb
      (lookup_eq_some_iff_first.mpr ⟨before, after, hparams, hbefore⟩)
  · intro template t h hsource hunknown
    apply String.toList_injective
    rw [hrender template t h hsource, fill_of_unknown hunknown, hsource]

/-- A value that looks like a placeholder, and a parameter without a name. -/
def dollarParams : List (String × String) := [("key", "$path"), ("path", "n"), ("", "x")]

/-- The value is not looked at again, a dollar sign alone stands for itself, and a
text may be cut behind a placeholder if its name ends there. -/
theorem dollarParams_rendered :
    render ("at " ++ ("$" ++ "key" ++ ".")) dollarParams = "at $path." ∧
    (render "$ $max" dollarParams).toList =
      [] ++ ([([], [' ']), (['m', 'a', 'x'], [])].flatMap fun slot =>
        value dollarParams slot.1 ++ slot.2) ∧
    value dollarParams ['m', 'a', 'x'] = ['$', 'm', 'a', 'x'] ∧
    render "$ $max" dollarParams = "$ $max" ∧
    render ("$key" ++ ", $path") dollarParams = "$path, n" := by
  obtain ⟨-, hrender, hvalue, hliteral, hkept, happend⟩ := render_substitutes_once dollarParams
  obtain ⟨hsplit, hsource⟩ := split_eq_iff.mp
    (show split "$ $max".toList = ⟨[], [([], [' ']), (['m', 'a', 'x'], [])]⟩ by decide)
  have hname : "key".toList.all isNameChar = true := by decide
  refine ⟨?_, hrender _ _ hsplit hsource, (hvalue _ _).mpr (.unknown (by decide)),
    hkept _ _ hsplit hsource (by decide), ?_⟩
  · rw [hliteral "at " "key" "." "$path" [] [("path", "n"), ("", "x")] rfl (by decide) (by decide)
      (List.all_eq_true.mp hname) (by decide)]
    decide
  · rw [happend "$key" ", $path" (.inl (by decide))]
    decide

end Conform
