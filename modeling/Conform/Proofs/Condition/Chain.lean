import Conform.Proofs.Schema.Keywords

/-!
# Chains of rules

A rule hands over to its first alternative if it has one, and to its second
otherwise.  So of the tree of its alternatives only one chain is ever tried.
The rule that is found is the first on this chain that holds, unless a rule
without an operator comes before it; what stands on a second alternative beside
a first one does not matter.
-/
namespace Conform.Rule
variable {α : Type} {field : Option Json} {r r' m : Rule α}

/-- The rule that is tried if this one does not hold. -/
def next? (r : Rule α) : Option (Rule α) := r.elseIf.or r.otherwise

/-- The rules that are tried one after the other if none of them holds. -/
def effective : Rule α → List (Rule α)
  | ⟨operator, operand, added, some next, otherwise⟩ =>
    ⟨operator, operand, added, some next, otherwise⟩ :: next.effective
  | ⟨operator, operand, added, none, some next⟩ =>
    ⟨operator, operand, added, none, some next⟩ :: next.effective
  | ⟨operator, operand, added, none, none⟩ => [⟨operator, operand, added, none, none⟩]

/-- The rule has an operator, and it holds. -/
def holds (field : Option Json) (r : Rule α) : Bool :=
  r.operator.any fun op => op.holds field r.operand

/-- What comes of a rule, read from the rule downwards. -/
inductive ResolvesTo (field : Option Json) : Rule α → Option (Rule α) → Prop where
  | inert {r : Rule α} (h : r.operator = none) : ResolvesTo field r none
  | itself {r : Rule α} {op : Operator} (h : r.operator = some op)
      (hop : op.holds field r.operand = true) : ResolvesTo field r (some r)
  | elseIf {r next : Rule α} {result : Option (Rule α)} {op : Operator}
      (h : r.operator = some op) (hop : op.holds field r.operand = false)
      (hnext : r.elseIf = some next) (hresult : ResolvesTo field next result) :
      ResolvesTo field r result
  | otherwise {r next : Rule α} {result : Option (Rule α)} {op : Operator}
      (h : r.operator = some op) (hop : op.holds field r.operand = false)
      (hnone : r.elseIf = none) (hnext : r.otherwise = some next)
      (hresult : ResolvesTo field next result) : ResolvesTo field r result
  | nothing {r : Rule α} {op : Operator} (h : r.operator = some op)
      (hop : op.holds field r.operand = false) (hnone : r.elseIf = none)
      (hnone' : r.otherwise = none) : ResolvesTo field r none

/-- Two rules that differ only in second alternatives beside a first one. -/
inductive UpToShadowed : Rule α → Rule α → Prop where
  | elseIf {operator : Option Operator} {operand : Option Json} {added : Option α}
      {next next' : Rule α} (h : UpToShadowed next next') (otherwise otherwise' : Option (Rule α)) :
      UpToShadowed ⟨operator, operand, added, some next, otherwise⟩
        ⟨operator, operand, added, some next', otherwise'⟩
  | otherwise {operator : Option Operator} {operand : Option Json} {added : Option α}
      {next next' : Rule α} (h : UpToShadowed next next') :
      UpToShadowed ⟨operator, operand, added, none, some next⟩
        ⟨operator, operand, added, none, some next'⟩
  | last (operator : Option Operator) (operand : Option Json) (added : Option α) :
      UpToShadowed ⟨operator, operand, added, none, none⟩ ⟨operator, operand, added, none, none⟩

/-- One step of the search. -/
theorem resolve?_step (field : Option Json) (r : Rule α) : r.resolve? field =
    r.operator.bind fun op =>
      if op.holds field r.operand then some r else r.next?.bind (resolve? field) := by
  obtain ⟨operator, operand, added, elseIf, otherwise⟩ := r
  cases operator with
  | none => rfl
  | some op => cases elseIf <;> cases otherwise <;> rfl

theorem ResolvesTo.resolve?_eq {result : Option (Rule α)} (h : ResolvesTo field r result) :
    r.resolve? field = result := by
  induction h with
  | inert h => exact resolve?_of_no_operator field _ h
  | itself h hop =>
    rw [resolve?_step]
    simp [h, hop]
  | elseIf h hop hnext _ ih =>
    rw [resolve?_step]
    simp [h, hop, next?, hnext, ih]
  | otherwise h hop hnone hnext _ ih =>
    rw [resolve?_step]
    simp [h, hop, next?, hnone, hnext, ih]
  | nothing h hop hnone hnone' =>
    rw [resolve?_step]
    simp [h, hop, next?, hnone, hnone']

theorem resolvesTo_resolve? (field : Option Json) (r : Rule α) :
    ResolvesTo field r (r.resolve? field) := by
  fun_induction resolve? field r with
  | case1 operand added elseIf otherwise => exact .inert rfl
  | case2 op operand added elseIf otherwise hop => exact .itself rfl hop
  | case3 op operand added otherwise hop next ih =>
    exact .elseIf rfl (eq_false_of_ne_true hop) rfl ih
  | case4 op operand added hop next ih =>
    exact .otherwise rfl (eq_false_of_ne_true hop) rfl rfl ih
  | case5 op operand added hop => exact .nothing rfl (eq_false_of_ne_true hop) rfl rfl

theorem resolvesTo_iff {result : Option (Rule α)} :
    ResolvesTo field r result ↔ r.resolve? field = result :=
  ⟨ResolvesTo.resolve?_eq, fun h => h ▸ resolvesTo_resolve? field r⟩

/-- The search goes along the chain up to the first rule that is inert or holds. -/
theorem resolve?_eq_find? (field : Option Json) (r : Rule α) : r.resolve? field =
    (r.effective.find? fun b => b.operator.isNone || b.holds field).filter (holds field) := by
  fun_induction effective r with
  | case1 operator operand added next otherwise ih | case2 operator operand added next ih =>
    cases operator with
    | none => simp [resolve?, holds, Option.filter_some]
    | some op =>
      cases hop : op.holds field operand <;> simp [resolve?, holds, hop, ih, Option.filter_some]
  | case3 operator operand added =>
    cases operator with
    | none => simp [resolve?, holds, Option.filter_some]
    | some op =>
      cases hop : op.holds field operand <;> simp [resolve?, holds, hop, Option.filter_some]

/-- What is found is the first rule of the chain that holds, and all rules before it have an
operator. -/
theorem resolve?_eq_some_iff : r.resolve? field = some m ↔
    ∃ before after, r.effective = before ++ m :: after ∧
      (∃ op, m.operator = some op ∧ op.holds field m.operand = true) ∧
      ∀ b ∈ before, ∃ op, b.operator = some op ∧ op.holds field b.operand = false := by
  have hmatch : m.holds field = true ↔
      ∃ op, m.operator = some op ∧ op.holds field m.operand = true := Option.any_eq_true ..
  have hpassed (b : Rule α) : (!(b.operator.isNone || b.holds field)) = true ↔
      ∃ op, b.operator = some op ∧ op.holds field b.operand = false := by
    obtain ⟨operator, operand, added, elseIf, otherwise⟩ := b
    cases operator <;> simp [holds]
  rw [resolve?_eq_find?, Option.filter_eq_some_iff, List.find?_eq_some_iff_append]
  simp only [hpassed, hmatch]
  constructor
  · rintro ⟨⟨-, before, after, heq, hbefore⟩, hm⟩
    exact ⟨before, after, heq, hm, hbefore⟩
  · rintro ⟨before, after, heq, hm, hbefore⟩
    exact ⟨⟨by simp [hmatch.mpr hm], before, after, heq, hbefore⟩, hm⟩

/-- What a single rule adds, its alternatives included. -/
theorem additions_singleton (name : String) (field : Option Json) (r : Rule α) :
    (⟨name, [r]⟩ : Block α).additions field = ((r.resolve? field).bind added).toList := by
  unfold Block.additions
  cases h : (r.resolve? field).bind added <;> simp [h]

theorem mem_additions_singleton {name : String} {extra : α}
    (h : extra ∈ (⟨name, [r]⟩ : Block α).additions field) :
    (⟨name, [r]⟩ : Block α).additions field = [extra] ∧
      ∃ m, r.resolve? field = some m ∧ m.added = some extra := by
  rw [additions_singleton] at h ⊢
  have hextra := Option.mem_toList.mp h
  rw [hextra]
  exact ⟨rfl, Option.bind_eq_some_iff.mp hextra⟩

namespace UpToShadowed

theorem added_eq (h : UpToShadowed r r') : r'.added = r.added := by
  cases h <;> rfl

theorem operator_eq (h : UpToShadowed r r') : r'.operator = r.operator := by
  cases h <;> rfl

theorem operand_eq (h : UpToShadowed r r') : r'.operand = r.operand := by
  cases h <;> rfl

/-- One step of the search in both rules. -/
theorem resolve?_rel_of_next (h : UpToShadowed r r')
    (hnext : Option.Rel UpToShadowed (r.next?.bind (resolve? field))
      (r'.next?.bind (resolve? field))) :
    Option.Rel UpToShadowed (r.resolve? field) (r'.resolve? field) := by
  rw [resolve?_step, resolve?_step field r', h.operator_eq, h.operand_eq]
  cases r.operator with
  | none => exact .none
  | some op =>
    simp only [Option.bind_some]
    split
    · exact .some h
    · exact hnext

/-- The search finds corresponding rules. -/
theorem resolve?_rel (h : UpToShadowed r r') :
    Option.Rel UpToShadowed (r.resolve? field) (r'.resolve? field) := by
  induction h with
  | elseIf h otherwise otherwise' ih =>
    exact resolve?_rel_of_next (.elseIf h otherwise otherwise') ih
  | otherwise h ih => exact resolve?_rel_of_next (.otherwise h) ih
  | last operator operand added => exact resolve?_rel_of_next (.last operator operand added) .none

theorem additions_eq (h : UpToShadowed r r') (name : String) (field : Option Json) :
    (⟨name, [r']⟩ : Block α).additions field = (⟨name, [r]⟩ : Block α).additions field := by
  rw [additions_singleton, additions_singleton]
  have hrel : Option.Rel UpToShadowed (r.resolve? field) (r'.resolve? field) := h.resolve?_rel
  generalize r.resolve? field = found, r'.resolve? field = found' at hrel ⊢
  cases hrel with
  | none => rfl
  | some h => rw [Option.bind_some, Option.bind_some, h.added_eq]

end UpToShadowed

/-- The place of an alternative. -/
inductive Place where
  | elseIf
  | otherwise
deriving DecidableEq, Repr

/-- A link of a chain: a rule without alternatives, and the place at which the next link is
attached to it. -/
structure Link (α : Type) where
  operator : Operator
  operand : Option Json
  added : Option α
  place : Place

namespace Link

/-- The rule of a link, with the rest of the chain attached. -/
def rule (l : Link α) (rest : Option (Rule α)) : Rule α :=
  match l.place with
  | .elseIf => ⟨some l.operator, l.operand, l.added, rest, none⟩
  | .otherwise => ⟨some l.operator, l.operand, l.added, none, rest⟩

theorem resolve?_rule (l : Link α) (rest : Option (Rule α)) : (l.rule rest).resolve? field =
    if l.operator.holds field l.operand then some (l.rule rest)
    else rest.bind (Rule.resolve? field) := by
  obtain ⟨operator, operand, added, place⟩ := l
  cases place <;> cases rest <;> rfl

end Link

/-- The chain of some links, from the first one on. -/
def ofLinks : List (Link α) → Option (Rule α)
  | [] => none
  | l :: rest => some (l.rule (ofLinks rest))

/-- Of a chain of links the first one is found whose operator holds. -/
theorem resolve?_ofLinks (field : Option Json) (links : List (Link α)) :
    (ofLinks links).bind (resolve? field) =
      ofLinks (links.dropWhile fun l => !l.operator.holds field l.operand) := by
  induction links with
  | nil => rfl
  | cons l rest ih =>
    rw [ofLinks, Option.bind_some, Link.resolve?_rule, List.dropWhile_cons]
    cases hop : l.operator.holds field l.operand with
    | true => simp [ofLinks]
    | false => simpa using ih

/-- The rule that an object names first is the one at `elseIf`, if an object is there, and
otherwise the one at `else`. -/
theorem next?_of_ruleOf? {ms : Table Json} {rule : Rule (Table Node)}
    (h : ruleOf? (.object ms) = some rule) :
    rule.next? = ((ms.get? "elseIf").bind ruleOf?).or ((ms.get? "else").bind ruleOf?) := by
  have hread (keyword : String) : ruleIn? keyword ms = (ms.get? keyword).bind ruleOf? := by
    rw [ruleIn?_eq]
    cases ms.get? keyword <;> rfl
  cases h
  rw [← hread, ← hread]
  rfl

/-- The search for a rule is its reading from the rule downwards, and finds the first rule of
one chain that holds.  At most this rule of the chain adds something; second alternatives beside
a first one make no difference; of a chain of links the first one that holds is found; and in
an object an alternative that is no rule counts as missing. -/
theorem first_match_is_resolved (field : Option Json) (r : Rule α) :
    (∀ result, ResolvesTo field r result ↔ r.resolve? field = result) ∧
    (∀ m, r.resolve? field = some m ↔ ∃ before after, r.effective = before ++ m :: after ∧
      (∃ op, m.operator = some op ∧ op.holds field m.operand = true) ∧
      ∀ b ∈ before, ∃ op, b.operator = some op ∧ op.holds field b.operand = false) ∧
    (∀ name extra, extra ∈ (⟨name, [r]⟩ : Block α).additions field →
      (⟨name, [r]⟩ : Block α).additions field = [extra] ∧
        ∃ m, r.resolve? field = some m ∧ m.added = some extra) ∧
    (∀ r', UpToShadowed r r' →
      Option.Rel UpToShadowed (r.resolve? field) (r'.resolve? field) ∧
        ∀ name, (⟨name, [r']⟩ : Block α).additions field =
          (⟨name, [r]⟩ : Block α).additions field) ∧
    (∀ links : List (Link α), (ofLinks links).bind (resolve? field) =
      ofLinks (links.dropWhile fun l => !l.operator.holds field l.operand)) ∧
    ∀ (ms : Table Json) (rule : Rule (Table Node)), ruleOf? (.object ms) = some rule →
      rule.next? = ((ms.get? "elseIf").bind ruleOf?).or ((ms.get? "else").bind ruleOf?) := by
  refine ⟨fun _ => resolvesTo_iff, fun _ => resolve?_eq_some_iff, ?_, ?_, ?_, ?_⟩
  · exact fun _ _ h => mem_additions_singleton h
  · exact fun _ h => ⟨h.resolve?_rel, fun name => h.additions_eq name field⟩
  · exact resolve?_ofLinks field
  · exact fun _ _ h => next?_of_ruleOf? h

/-- An object whose `elseIf` is a text, so that its `else` is tried. -/
def misspelt : Table Json :=
  [("operator", .string "="), ("value", .string "a"), ("elseIf", .string "none"),
    ("else", .object [("operator", .string "typeof"), ("value", .string "number"),
      ("addProperties", .object [("m", .string "null")])])]

/-- A rule for texts with both alternatives, of which the first one is inert. -/
def inertFirst (otherwise : Option (Rule (Table Node))) : Rule (Table Node) :=
  ⟨some .equal, some (.string "a"), none, some ⟨none, none, some [("n", .tag "null")], none, none⟩,
    otherwise⟩

/-- An inert first alternative ends the search, whatever the second one is; one that is not an
object hands over to the second. -/
theorem first_match_is_resolved_misspelt :
    let second : Rule (Table Node) :=
      ⟨some .typeOf, some (.string "number"), some [("m", .tag "null")], none, none⟩
    let read : Rule (Table Node) := ⟨some .equal, some (.string "a"), none, none, some second⟩
    let field := some (Json.number (.integer 2))
    UpToShadowed (inertFirst (some second)) (inertFirst none) ∧
    (⟨"k", [inertFirst none]⟩ : Block (Table Node)).additions field =
      (⟨"k", [inertFirst (some second)]⟩ : Block (Table Node)).additions field ∧
    ruleOf? (.object misspelt) = some read ∧ read.next? = some second ∧
    ResolvesTo field read (some second) ∧
    (⟨"k", [read]⟩ : Block (Table Node)).additions field = [[("m", .tag "null")]] := by
  intro second read field
  have hshadowed : UpToShadowed (inertFirst (some second)) (inertFirst none) :=
    .elseIf (.last none none _) _ _
  have hread : ruleOf? (.object misspelt) = some read := rfl
  obtain ⟨hresolves, -, hadds, -, -, hnext⟩ := first_match_is_resolved field read
  obtain ⟨-, -, -, hsame, -, -⟩ := first_match_is_resolved field (inertFirst (some second))
  have hmem : [("m", .tag "null")] ∈ (⟨"k", [read]⟩ : Block (Table Node)).additions field :=
    .head _
  exact ⟨hshadowed, (hsame _ hshadowed).2 "k", hread, (hnext misspelt read hread).trans rfl,
    (hresolves _).mpr rfl, (hadds "k" _ hmem).1⟩

end Conform.Rule
