import Conform.Extension
import Conform.Proofs.Schema.Contents
import Conform.Proofs.Stopping
import Conform.Proofs.Table
import Mathlib.Data.List.Forall2

/-!
# The walk of an extension

Applying the blocks of a specification changes its properties only, and every
new entry comes from a table that a block can add.  The walk then goes into the
properties as they are after the injection.  What holds of a node once it holds
of these properties holds of every node.
-/
namespace Conform

/-- The entries of a declared table. -/
def Properties.entries : Properties → Table Node
  | declared table => table
  | _ => []

theorem Properties.mem_entries_merge {ps : Properties} {extra : Table Node} {e : String × Node}
    (h : e ∈ (ps.merge extra).entries) : e ∈ ps.entries ∨ e ∈ extra := by
  cases ps with
  | declared table => exact Table.mem_merge h
  | undeclared | malformed => exact .inr h

theorem Spec.holds_of_mem_entries {s : Spec} {e : String × Node} (h : e ∈ s.properties.entries) :
    (Node.spec s).Holds e.2 := by
  cases hp : s.properties with
  | declared table =>
    rw [hp] at h
    exact .property hp h
  | undeclared | malformed =>
    rw [hp] at h
    cases h

/-- A specification after some blocks: its properties may have entries of tables
that the blocks add, and nothing else is changed. -/
structure Spec.Grows (blocks : List (Block (Table Node))) (s s' : Spec) : Prop where
  same : s' = { s with properties := s'.properties }
  entries : ∀ e ∈ s'.properties.entries,
    e ∈ s.properties.entries ∨ ∃ b ∈ blocks, ∃ extra, b.Adds extra ∧ e ∈ extra
  malformed : ∀ raw, s'.properties = .malformed raw → s.properties = .malformed raw

theorem Spec.Grows.refl (blocks : List (Block (Table Node))) (s : Spec) : s.Grows blocks s where
  same := by cases s; rfl
  entries := fun _ h => .inl h
  malformed := fun _ h => h

theorem Spec.Grows.trans {blocks : List (Block (Table Node))} {s s' s'' : Spec}
    (h : s.Grows blocks s') (h' : s'.Grows blocks s'') : s.Grows blocks s'' where
  same := by rw [h'.same, h.same]
  entries := by
    intro e he
    rcases h'.entries e he with he | he
    · exact h.entries e he
    · exact .inr he
  malformed := fun raw hraw => h.malformed raw (h'.malformed raw hraw)

theorem Spec.Grows.mono {blocks more : List (Block (Table Node))} {s s' : Spec}
    (h : s.Grows blocks s') (hsub : blocks ⊆ more) : s.Grows more s' where
  same := h.same
  entries := by
    intro e he
    rcases h.entries e he with he | ⟨b, hb, hadds⟩
    · exact .inl he
    · exact .inr ⟨b, hsub hb, hadds⟩
  malformed := h.malformed

theorem Spec.inject_grows {b : Block (Table Node)} {extra : Table Node} (s : Spec)
    (h : b.Adds extra) : s.Grows [b] (s.inject extra) where
  same := rfl
  entries := by
    intro e he
    rcases Properties.mem_entries_merge he with he | he
    · exact .inl he
    · exact .inr ⟨b, List.mem_singleton_self b, extra, h, he⟩
  malformed := by
    intro raw hraw
    cases hp : s.properties <;> simp [Spec.inject, Properties.merge, hp] at hraw

theorem Spec.injections_grows {b : Block (Table Node)} (extras : List (Table Node)) (s : Spec)
    (h : ∀ extra ∈ extras, b.Adds extra) : s.Grows [b] (extras.foldl Spec.inject s) := by
  induction extras generalizing s with
  | nil => exact .refl _ s
  | cons extra rest ih =>
    rw [List.forall_mem_cons] at h
    exact (s.inject_grows h.1).trans (ih _ h.2)

section
variable {p : Policy} {root : Json} {here : Path} {s s' : Spec}

theorem Spec.applyBlock_grows {b : Block (Table Node)}
    (h : s.applyBlock p root here b = .ok s') : s.Grows [b] s' := by
  unfold applyBlock at h
  split at h
  · cases h
    exact injections_grows _ _ fun extra he => Block.adds_of_mem_additions he
  · split at h
    · cases h
      exact .refl _ _
    · cases h

theorem Spec.applyBlocks_grows {blocks : List (Block (Table Node))}
    (h : s.applyBlocks p root here blocks = .ok s') : s.Grows blocks s' := by
  induction blocks generalizing s with
  | nil =>
    cases h
    exact .refl _ _
  | cons b rest ih =>
    unfold applyBlocks at h
    split at h
    · rename_i s₁ h₁
      exact ((applyBlock_grows h₁).mono (by simp)).trans ((ih h).mono (by simp))
    · cases h

/-- The specification that is left has no blocks. -/
theorem Spec.applyConditions_grows (h : s.applyConditions p root here = .ok s') :
    Spec.Grows s.conditions { s with conditions := [] } s' :=
  applyBlocks_grows h

/-- The entries after an injection are held by the specification. -/
theorem Spec.holds_of_applyConditions (h : s.applyConditions p root here = .ok s')
    {key : String} {node : Node} (hn : (key, node) ∈ s'.properties.entries) :
    (Node.spec s).Holds node := by
  rcases (applyConditions_grows h).entries _ hn with hn | ⟨b, hb, extra, hadds, hn⟩
  · exact holds_of_mem_entries (s := s) hn
  · exact .added hb hadds hn

theorem Spec.applyBlock_stops (b : Block (Table Node)) :
    p.StopsWith (s.applyBlock p root here b) fun i =>
      ∃ e, Path.parse b.field = .error e ∧ i = invalidPathIssue s here b.field e.reason := by
  unfold applyBlock
  cases hb : Path.parse b.field with
  | ok field => exact Policy.stopsWith_ok _
  | error e =>
    intro i hi
    dsimp only at hi
    split at hi
    · cases hi
    · rename_i hj
      cases hi
      obtain ⟨hr, rfl⟩ := (p.raise_eq_error_iff _ _).mp hj
      exact ⟨hr, e, rfl, rfl⟩

theorem Spec.applyBlocks_stops (blocks : List (Block (Table Node))) :
    p.StopsWith (s.applyBlocks p root here blocks) fun i => ∃ b ∈ blocks,
      ∃ e, Path.parse b.field = .error e ∧ i = invalidPathIssue s here b.field e.reason := by
  induction blocks generalizing s with
  | nil => exact Policy.stopsWith_ok _
  | cons b rest ih =>
    intro i hi
    unfold applyBlocks at hi
    split at hi
    · rename_i s₁ h₁
      obtain ⟨hr, b', hb', e, he, hi⟩ := ih i hi
      refine ⟨hr, b', List.mem_cons_of_mem _ hb', e, he, ?_⟩
      rw [hi, (applyBlock_grows h₁).same]
      rfl
    · rename_i j hj
      cases hi
      obtain ⟨hr, e, he, hi⟩ := applyBlock_stops b _ hj
      exact ⟨hr, b, List.mem_cons_self .., e, he, hi⟩

theorem Spec.applyConditions_stops :
    p.StopsWith (s.applyConditions p root here) fun i => ∃ b ∈ s.conditions,
      ∃ e, Path.parse b.field = .error e ∧ i = invalidPathIssue s here b.field e.reason :=
  applyBlocks_stops s.conditions

section
variable {ε : Type} [Complaint ε]

theorem Spec.applyBlocks_cons (b : Block (Table Node)) (rest : List (Block (Table Node))) :
    (s.applyBlocks p root here (b :: rest) : Except ε Spec) =
      (s.applyBlock p root here b >>= fun s => s.applyBlocks p root here rest) := by
  rw [applyBlocks]
  cases (s.applyBlock p root here b : Except ε Spec) <;> rfl

theorem extendTable_cons (key : String) (node : Node) (rest : List (String × Node)) :
    (extendTable p root here ((key, node) :: rest) : Except ε _) = (do
      let node ← node.extend p root (here.child (.key key))
      let rest ← extendTable p root here rest
      return (key, node) :: rest) := by
  rw [extendTable]
  cases (node.extend p root (here.child (.key key)) : Except ε Node) with
  | error i => rfl
  | ok node' => cases (extendTable p root here rest : Except ε _) <;> rfl

/-- The extension of the properties that are declared. -/
def Properties.extend (p : Policy) (root : Json) (here : Path) (ps : Properties) :
    Except ε Properties :=
  match ps with
  | declared table => (extendTable p root here table).map declared
  | ps => .ok ps

theorem Properties.extend_declared (table : Table Node) :
    ((declared table).extend p root here : Except ε _) =
      (extendTable p root here table).map declared := rfl

/-- The walk applies the blocks and goes on in the properties. -/
theorem Node.extend_spec : ((Node.spec s).extend p root here : Except ε Node) = (do
    let s' ← s.applyConditions p root here
    let ps ← s'.properties.extend p root here
    return .spec { s' with properties := ps }) := by
  rw [Node.extend]
  split
  · rename_i i hi
    rw [hi]
    rfl
  · rename_i s' hs
    rw [hs]
    change _ = (s'.properties.extend p root here >>= fun ps => _)
    split
    · rename_i table hp
      rw [hp]
      simp only [Properties.extend]
      cases (extendTable p root here table : Except ε _) <;> rfl
    · rename_i hp
      obtain ⟨type, properties, items, conditions, _, _, _, _, _⟩ := s'
      cases properties with
      | declared table => exact absurd rfl (hp table)
      | undeclared | malformed => rfl

@[simp] theorem Node.extend_tag (name : String) :
    ((Node.tag name).extend p root here : Except ε Node) = .ok (.tag name) := by
  rw [Node.extend]

@[simp] theorem Node.extend_enum (members : List Member) :
    ((Node.enum members).extend p root here : Except ε Node) = .ok (.enum members) := by
  rw [Node.extend]

end

theorem Node.extend_spec_eq_ok_iff {n : Node} : (Node.spec s).extend p root here = .ok n ↔
    ∃ s' ps, s.applyConditions p root here = .ok s' ∧ s'.properties.extend p root here = .ok ps ∧
      n = .spec { s' with properties := ps } := by
  rw [extend_spec, bind_eq_ok_iff]
  simp only [bind_eq_ok_iff]
  constructor
  · rintro ⟨s', hs, ps, hps, hn⟩
    cases hn
    exact ⟨s', ps, hs, hps, rfl⟩
  · rintro ⟨s', ps, hs, hps, rfl⟩
    exact ⟨s', hs, ps, hps, rfl⟩

/-- The entries are extended one by one, under their keys. -/
theorem extendTable_eq_ok_iff {table table' : Table Node} :
    extendTable p root here table = .ok table' ↔
      List.Forall₂ (fun e e' => e'.1 = e.1 ∧
        e.2.extend p root (here.child (.key e.1)) = .ok e'.2) table table' := by
  induction table generalizing table' with
  | nil =>
    rw [extendTable, List.forall₂_nil_left_iff]
    constructor
    · intro h
      cases h
      rfl
    · rintro rfl
      rfl
  | cons e rest ih =>
    obtain ⟨key, node⟩ := e
    rw [extendTable, List.forall₂_cons_left_iff]
    constructor
    · intro h
      split at h
      · cases h
      · rename_i node' hnode
        split at h
        · cases h
        · rename_i rest' hrest
          cases h
          exact ⟨(key, node'), rest', ⟨rfl, hnode⟩, ih.mp hrest, rfl⟩
    · rintro ⟨⟨key', node'⟩, rest', ⟨rfl, hnode⟩, hrest, rfl⟩
      dsimp only at hnode
      rw [hnode, ih.mpr hrest]

/-- A walk through a table stops where it stops in an entry. -/
theorem extendTable_stops {Q : Issue → Prop} {table : Table Node}
    (h : ∀ key node, (key, node) ∈ table →
      p.StopsWith (node.extend p root (here.child (.key key))) Q) :
    p.StopsWith (extendTable p root here table) Q := by
  induction table with
  | nil =>
    rw [extendTable]
    exact Policy.stopsWith_ok _
  | cons e rest ih =>
    obtain ⟨key, node⟩ := e
    have hnode := h key node (List.mem_cons_self ..)
    have hrest := ih fun key node hn => h key node (List.mem_cons_of_mem _ hn)
    intro i hi
    rw [extendTable] at hi
    split at hi
    · rename_i j hj
      cases hi
      exact hnode _ hj
    · split at hi
      · rename_i j hj
        cases hi
        exact hrest _ hj
      · cases hi

theorem Properties.extend_stops {Q : Issue → Prop} {ps : Properties}
    (h : ∀ key node, (key, node) ∈ ps.entries →
      p.StopsWith (node.extend p root (here.child (.key key))) Q) :
    p.StopsWith (ps.extend p root here) Q := by
  cases ps with
  | declared table =>
    have htable : p.StopsWith (extendTable p root here table) Q := extendTable_stops h
    intro i hi
    rw [extend_declared] at hi
    cases ht : extendTable p root here table with
    | ok table' =>
      rw [ht] at hi
      cases hi
    | error j =>
      rw [ht] at hi
      cases hi
      exact htable _ ht
  | undeclared | malformed => exact Policy.stopsWith_ok _

theorem mem_of_extendTable {table table' : Table Node}
    (h : List.Forall₂ (fun e e' => e'.1 = e.1 ∧
      e.2.extend p root (here.child (.key e.1)) = .ok e'.2) table table')
    {key : String} {node' : Node} (hn : (key, node') ∈ table') :
    ∃ node, (key, node) ∈ table ∧ node.extend p root (here.child (.key key)) = .ok node' := by
  induction h with
  | nil => cases hn
  | @cons e e' rest rest' he hrest ih =>
    rcases List.mem_cons.mp hn with rfl | hn
    · obtain ⟨rfl, hnode⟩ := he
      exact ⟨e.2, List.mem_cons_self .., hnode⟩
    · obtain ⟨node, hmem, hnode⟩ := ih hn
      exact ⟨node, List.mem_cons_of_mem _ hmem, hnode⟩

/-- Every entry of extended properties is the extension of an entry of the same key. -/
theorem Properties.mem_entries_of_extend {ps ps' : Properties}
    (h : ps.extend p root here = .ok ps') {key : String} {node' : Node}
    (hn : (key, node') ∈ ps'.entries) :
    ∃ node, (key, node) ∈ ps.entries ∧
      node.extend p root (here.child (.key key)) = .ok node' := by
  cases ps with
  | declared table =>
    rw [extend_declared] at h
    cases ht : extendTable p root here table with
    | error i =>
      rw [ht] at h
      cases h
    | ok table' =>
      rw [ht] at h
      cases h
      exact mem_of_extendTable (extendTable_eq_ok_iff.mp ht) hn
  | undeclared | malformed =>
    cases h
    cases hn

end

theorem depth_le_of_mem_table {table : Table Node} {key : String} {node : Node}
    (h : (key, node) ∈ table) : node.depth ≤ tableDepth table := by
  induction table with
  | nil => cases h
  | cons e rest ih =>
    obtain ⟨k, n⟩ := e
    rw [tableDepth]
    rcases List.mem_cons.mp h with h | h
    · cases h
      omega
    · have := ih h
      omega

theorem Properties.depth_of_mem_entries {ps : Properties} {e : String × Node}
    (h : e ∈ ps.entries) : e.2.depth ≤ ps.depth := by
  cases ps with
  | declared table =>
    rw [Properties.depth]
    exact depth_le_of_mem_table h
  | undeclared | malformed => cases h

/-- A property of nodes at their paths follows if a specification has it whenever
the properties that the walk then goes into have it. -/
theorem Node.extension_induction (ε : Type) [Complaint ε] (p : Policy) (root : Json)
    {P : Path → Node → Prop} (tag : ∀ here name, P here (.tag name))
    (enum : ∀ here members, P here (.enum members))
    (spec : ∀ here s, (∀ s' key node, (s.applyConditions p root here : Except ε Spec) = .ok s' →
      (key, node) ∈ s'.properties.entries → P (here.child (.key key)) node) → P here (.spec s))
    (here : Path) (n : Node) : P here n := by
  -- The properties of `s'` need not be parts of `s`; only their depth is smaller.
  induction hd : n.depth using Nat.strongRecOn generalizing here n with
  | _ d ih =>
    subst hd
    cases n with
    | tag name => exact tag here name
    | enum members => exact enum here members
    | spec s =>
      apply spec
      intro s' key node hs hn
      have hnode : node.depth < (Node.spec s).depth := by
        rw [Node.depth]
        exact Nat.lt_of_le_of_lt (Properties.depth_of_mem_entries hn)
          (Spec.applyConditions_depth hs)
      exact ih node.depth hnode _ node rfl

end Conform
