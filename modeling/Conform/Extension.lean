import Conform.Issue.Basic
import Conform.Path.Parser
import Conform.Schema.Depth

/-! # Conditional extension

Extending a schema applies the blocks of each specification, from the root down
along declared properties, injected ones included.  A block reads its field from
the root of the input.  The walk ends because a specification with its blocks
applied has properties of smaller depth than it had itself.
-/
namespace Conform
variable {ε : Type} [Complaint ε]

def invalidPathIssue (s : Spec) (here : Path) (field reason : String) : Issue where
  domain := .schema
  code := .invalidPath
  path := here
  params := [("expression", field), ("reason", reason)]
  annotations := s.annotations

/-- Inject what the rules of one block add. -/
def Spec.applyBlock (p : Policy) (root : Json) (here : Path) (s : Spec)
    (b : Block (Table Node)) : Except ε Spec :=
  match Path.parse b.field with
  | .ok field => .ok ((b.additions (field.lookup? root)).foldl Spec.inject s)
  | .error e =>
    match (p.raise (invalidPathIssue s here b.field e.reason) : Except ε Unit) with
    | .ok () => .ok s
    | .error i => .error i

def Spec.applyBlocks (p : Policy) (root : Json) (here : Path) (s : Spec) :
    List (Block (Table Node)) → Except ε Spec
  | [] => .ok s
  | b :: rest =>
    match s.applyBlock p root here b with
    | .ok s => s.applyBlocks p root here rest
    | .error i => .error i

/-- A specification with its blocks applied and taken out. -/
def Spec.applyConditions (p : Policy) (root : Json) (here : Path) (s : Spec) :
    Except ε Spec :=
  { s with conditions := [] }.applyBlocks p root here s.conditions

theorem Spec.applyBlock_depth {p : Policy} {root : Json} {here : Path} {s s' : Spec}
    {b : Block (Table Node)} {d : Nat} (h : (s.applyBlock p root here b : Except ε Spec) = .ok s')
    (hs : s.properties.depth ≤ d) (hb : rulesDepth b.rules ≤ d) : s'.properties.depth ≤ d := by
  unfold applyBlock at h
  split at h
  · cases h
    apply properties_depth_injections _ _ _ hs
    intro e he
    exact Nat.le_trans (tableDepth_of_mem_additions he) hb
  · split at h
    · cases h
      exact hs
    · cases h

theorem Spec.applyBlocks_depth {p : Policy} {root : Json} {here : Path} {s s' : Spec}
    {bs : List (Block (Table Node))} {d : Nat}
    (h : (s.applyBlocks p root here bs : Except ε Spec) = .ok s')
    (hs : s.properties.depth ≤ d) (hb : blocksDepth bs ≤ d) : s'.properties.depth ≤ d := by
  induction bs generalizing s with
  | nil =>
    cases h
    exact hs
  | cons b rest ih =>
    obtain ⟨field, rules⟩ := b
    simp only [blocksDepth] at hb
    unfold applyBlocks at h
    split at h
    · rename_i s₁ h₁
      exact ih h (applyBlock_depth h₁ hs (by simp only; omega)) (by omega)
    · cases h

theorem Spec.applyConditions_depth {p : Policy} {root : Json} {here : Path} {s s' : Spec}
    (h : (s.applyConditions p root here : Except ε Spec) = .ok s') :
    s'.properties.depth < s.depth := by
  rw [depth_eq]
  have hs : ({ s with conditions := [] } : Spec).properties.depth ≤
      max s.properties.depth (blocksDepth s.conditions) := Nat.le_max_left _ _
  have := applyBlocks_depth h hs (Nat.le_max_right _ _)
  omega

mutual

/-- The extension of a node at a path, for an input with the given root. -/
def Node.extend (p : Policy) (root : Json) (here : Path) : Node → Except ε Node
  | .spec s =>
    match _hs : s.applyConditions p root here with
    | .error i => .error i
    | .ok s' =>
      match _hp : s'.properties with
      | .declared table =>
        match extendTable p root here table with
        | .error i => .error i
        | .ok table => .ok (.spec { s' with properties := .declared table })
      | _ => .ok (.spec s')
  | .tag name => .ok (.tag name)
  | .enum members => .ok (.enum members)
termination_by n => (n.depth, 0)
decreasing_by
  have h := Spec.applyConditions_depth _hs
  rw [_hp] at h
  exact Prod.Lex.left _ _ h

/-- The extension of each property in turn. -/
def extendTable (p : Policy) (root : Json) (here : Path) :
    List (String × Node) → Except ε (List (String × Node))
  | [] => .ok []
  | (key, node) :: rest =>
    match node.extend p root (here.child (.key key)) with
    | .error i => .error i
    | .ok node =>
      match extendTable p root here rest with
      | .error i => .error i
      | .ok rest => .ok ((key, node) :: rest)
termination_by t => (tableDepth t, t.length + 1)
decreasing_by
  · simp only [tableDepth, Prod.lex_def]
    omega
  · simp only [tableDepth, List.length_cons, Prod.lex_def]
    omega

end

/-- The schema that applies to an input. -/
def extend (p : Policy) (schema : Node) (input : Json) : Except ε Node :=
  schema.extend p input Path.root

end Conform
