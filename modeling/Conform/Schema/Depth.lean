import Conform.Schema.Basic

/-! # The depth of a schema

Depth is counted along declared properties and along the properties that rules
add, in every alternative of a rule.  An injection moves added properties among
the declared ones, and so never makes a specification deeper.
-/
namespace Conform

mutual

def Node.depth : Node → Nat
  | .spec s => s.depth
  | _ => 0
termination_by structural n => n

def Spec.depth : Spec → Nat
  | { properties, conditions, .. } => max properties.depth (blocksDepth conditions) + 1
termination_by structural s => s

def Properties.depth : Properties → Nat
  | .declared table => tableDepth table
  | _ => 0
termination_by structural p => p

def tableDepth : List (String × Node) → Nat
  | [] => 0
  | (_, node) :: rest => max node.depth (tableDepth rest)
termination_by structural t => t

def blocksDepth : List (Block (List (String × Node))) → Nat
  | [] => 0
  | ⟨_, rules⟩ :: rest => max (rulesDepth rules) (blocksDepth rest)
termination_by structural bs => bs

def rulesDepth : List (Rule (List (String × Node))) → Nat
  | [] => 0
  | rule :: rest => max (ruleDepth rule) (rulesDepth rest)
termination_by structural rs => rs

def ruleDepth : Rule (List (String × Node)) → Nat
  | ⟨_, _, added, elseIf, otherwise⟩ =>
    max (addedDepth added) (max (alternativeDepth elseIf) (alternativeDepth otherwise))
termination_by structural r => r

def addedDepth : Option (List (String × Node)) → Nat
  | none => 0
  | some table => tableDepth table
termination_by structural t => t

def alternativeDepth : Option (Rule (List (String × Node))) → Nat
  | none => 0
  | some rule => ruleDepth rule
termination_by structural r => r

end

theorem Spec.depth_eq (s : Spec) :
    s.depth = max s.properties.depth (blocksDepth s.conditions) + 1 := by
  cases s
  rfl

theorem tableDepth_insert (t : Table Node) (key : String) (node : Node) :
    tableDepth (Table.insert t key node) ≤ max (tableDepth t) node.depth := by
  induction t with
  | nil => simp [Table.insert, tableDepth]
  | cons entry rest ih =>
    obtain ⟨k, n⟩ := entry
    unfold Table.insert
    split
    · simp only [tableDepth]
      omega
    · simp only [tableDepth]
      omega

theorem tableDepth_merge (t extra : Table Node) :
    tableDepth (Table.merge t extra) ≤ max (tableDepth t) (tableDepth extra) := by
  induction extra generalizing t with
  | nil => simp [tableDepth]
  | cons entry rest ih =>
    obtain ⟨k, n⟩ := entry
    rw [Table.merge_cons]
    have h := ih (Table.insert t k n)
    have hi := tableDepth_insert t k n
    simp only [tableDepth]
    omega

theorem Properties.depth_merge (p : Properties) (extra : Table Node) :
    (p.merge extra).depth ≤ max p.depth (tableDepth extra) := by
  cases p with
  | declared table => exact tableDepth_merge table extra
  | undeclared => exact Nat.le_max_right _ _
  | malformed => exact Nat.le_max_right _ _

/-- What a rule of a chain adds is no deeper than the chain. -/
theorem addedDepth_resolve? (field : Option Json) (r r' : Rule (Table Node))
    (h : r.resolve? field = some r') : addedDepth r'.added ≤ ruleDepth r := by
  fun_induction Rule.resolve? field r with
  | case1 => cases h
  | case2 op operand added elseIf otherwise =>
    cases h
    simp only [ruleDepth]
    omega
  | case3 op operand added otherwise _ next ih =>
    have := ih h
    simp only [ruleDepth, alternativeDepth]
    omega
  | case4 op operand added _ next ih =>
    have := ih h
    simp only [ruleDepth, alternativeDepth]
    omega
  | case5 => cases h

theorem tableDepth_of_mem_additions {b : Block (Table Node)} {field : Option Json}
    {extra : Table Node} (h : extra ∈ b.additions field) :
    tableDepth extra ≤ rulesDepth b.rules := by
  obtain ⟨name, rules⟩ := b
  simp only [Block.additions] at h ⊢
  induction rules with
  | nil => simp at h
  | cons rule rest ih =>
    simp only [List.mem_filterMap, List.mem_cons, rulesDepth] at h ih ⊢
    obtain ⟨r, hr, ha⟩ := h
    rcases hr with rfl | hr
    · obtain ⟨r', hres, hadd⟩ := Option.bind_eq_some_iff.mp ha
      have := addedDepth_resolve? field r r' hres
      rw [hadd] at this
      simp only [addedDepth] at this
      omega
    · have := ih ⟨r, hr, ha⟩
      omega

theorem Spec.properties_depth_injections (s : Spec) (extras : List (Table Node)) (d : Nat)
    (hs : s.properties.depth ≤ d) (he : ∀ e ∈ extras, tableDepth e ≤ d) :
    (extras.foldl Spec.inject s).properties.depth ≤ d := by
  induction extras generalizing s with
  | nil => exact hs
  | cons e rest ih =>
    apply ih
    · have := Properties.depth_merge s.properties e
      have := he e (List.mem_cons_self ..)
      simp only [Spec.inject]
      omega
    · intro e' h
      exact he e' (List.mem_cons_of_mem _ h)

end Conform
