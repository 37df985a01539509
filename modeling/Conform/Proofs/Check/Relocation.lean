import Conform.Proofs.Check.Comparison
import Conform.Proofs.Extension.Fixpoint

/-!
# Checks at other paths

A check hands its path on, extended by a key or a position, and puts it into its
issues; it never reads it.  So a check below another path comes to the same issue,
with that path before its own.  The member of an object is checked as it would be
alone, its key before every path.
-/
namespace Conform

/-- The issue of the same check below a path. -/
def Issue.under (base : Path) (i : Issue) : Issue := { i with path := base ++ i.path }

/-- The second report is the first one below a path.  The messages may name the
paths, so they are left out. -/
structure Report.Under (base : Path) (r r' : Report) : Prop where
  domain : r'.domain = r.domain
  code : r'.code = r.code
  path : r'.path = base ++ r.path
  annotations : r'.annotations = r.annotations

theorem Catalog.report_under (c : Catalog) (base : Path) (i : Issue) :
    (c.report i).Under base (c.report (i.under base)) := ⟨rfl, rfl, rfl, rfl⟩

theorem Path.append_child (base here : Path) (s : Segment) :
    (base ++ here).child s = base ++ here.child s := List.append_assoc base here [s]

theorem Policy.raise_under (p : Policy) (base : Path) (i : Issue) :
    Alike (fun i j => j = i.under base) (p.raise i) (p.raise (i.under base)) := by
  rw [Alike.iff_mapError]
  change (if p.reports i.domain i.code then _ else _) = (p.raise i).mapError _
  rw [raise_def]
  split <;> rfl

section
variable (matcher? : String → Option (String → Bool)) (c : Catalog)

def Comparison.ofBase (base : Path) : Comparison Issue Issue where
  toRunRelation := .alike fun i j => j = i.under base
  left := c.policy matcher?
  right := c.policy matcher?
  values := Eq
  places here there := there = base ++ here
  nodes _ _ := True
  matcher? := rfl
  aligned := Json.aligned_of_eq
  literal := Json.equal_congr
  child := by
    rintro here _ rfl s
    exact Path.append_child base here s
  part _ _ := trivial
  alternative _ _ := trivial
  raise := by
    rintro domain code here _ params about _ rfl
    exact Policy.raise_under _ base ⟨domain, code, here, params, about⟩
  closed := by
    rintro s v _ here _ rfl rfl
    refine RunRelation.checkClosed_rel _ (fun key => ?_) v
    rw [Path.append_child]
    exact Policy.raise_under _ base
      (dataIssue .unexpectedKey (here.child (.key key)) s.annotations)
  trial := by
    rintro a input input' here there rest rest' _ _ _ hcheck hrest
    refine Alike.tryNext ?_ hcheck hrest
    rintro i _ rfl
    rfl

/-- The check below a path ends as the check itself does, with the path put before
that of its issue. -/
theorem checkNode_append (n : Node) (input : Option Json) (base here : Path) (inEnum : Bool) :
    checkNode (c.policy matcher?) n input (base ++ here) inEnum =
      (checkNode (c.policy matcher?) n input here inEnum).mapError (Issue.under base) := by
  have hinput : Option.Rel Eq input input := by
    cases input with
    | none => exact .none
    | some v => exact .some rfl
  exact Alike.iff_mapError.mp ((Comparison.ofBase matcher? c base).related n trivial hinput rfl)

variable {s : Spec} {key : String} {node : Node} {v : Json}

/-- Without blocks, the only member of an object is checked as a value of its node
is, at its key. -/
theorem check_of_only_member (hnode : node.Settled) (htype : s.type = .tag "object")
    (hproperties : s.properties = .declared [(key, node)]) (hblocks : s.conditions = []) :
    check (c.policy matcher?) (.spec s) (.object [(key, v)]) =
      (check (c.policy matcher?) node v).mapError (Issue.under [.key key]) := by
  have hsettled : (Node.spec s).Settled := by
    rw [Node.settled_iff]
    refine ⟨?_, ?_⟩
    · rintro _ ⟨⟩
      exact hblocks
    · rintro _ ⟨hmem⟩
      rw [hproperties] at hmem
      cases List.mem_singleton.mp hmem
      exact hnode
  have hparts : s.parts (.object [(key, v)]) = [⟨.key key, node, some v⟩] := by
    rw [Spec.parts, hproperties]
    simp [Properties.entries, Table.get?_cons]
  have hclosed : checkClosed (c.policy matcher?) s (.object [(key, v)]) Path.root = .ok () := by
    simp [checkClosed, checkUnexpected, hproperties, Properties.table?, Table.keys, checkKeys,
      Table.contains, Table.get?_cons, pure, Except.pure]
  have hobject : TypeTag.object.admits (.object [(key, v)]) = true := rfl
  have hmember : check (c.policy matcher?) (.spec s) (.object [(key, v)]) =
      checkNode (c.policy matcher?) node (some v) ([.key key] ++ Path.root) false := by
    rw [check, extend, hsettled.extend_eq]
    change checkNode _ (.spec s) _ _ _ = _
    rw [checkNode_spec, checkSpec_of_admits false htype hobject, hproperties, hparts, hclosed,
      List.forM_cons]
    change (checkNode _ node (some v) [.key key] false >>= fun _ => pure ()) >>= pure = _
    rw [bind_pure, bind_pure_unit]
    rfl
  rw [hmember, checkNode_append, check, extend, hnode.extend_eq]
  rfl

end

/-- Validation is relative to its path.  A check at a path passes just if the check
at the root does, and otherwise its report is that of the root below the path.  So
an object with one member, which is all that its schema declares, is validated as
the member alone would be, with the key before the path; neither schema has blocks
along its properties. -/
theorem validation_is_relative (matcher? : String → Option (String → Bool)) (c : Catalog) :
    (∀ (n : Node) (input : Option Json) (inEnum : Bool) (base : Path),
      Alike (Report.Under base)
        ((checkNode (c.policy matcher?) n input Path.root inEnum).mapError c.report)
        ((checkNode (c.policy matcher?) n input base inEnum).mapError c.report)) ∧
    ∀ (key : String) (v : Json) (node : Node) (s : Spec), node.Settled →
      s.type = .tag "object" → s.properties = .declared [(key, node)] → s.conditions = [] →
      Alike (Report.Under [.key key]) (validateWith matcher? c node v)
        (validateWith matcher? c (.spec s) (.object [(key, v)])) := by
  have hunder {base : Path} {x y : Except Issue Unit} (h : y = x.mapError (Issue.under base)) :
      Alike (Report.Under base) (x.mapError c.report) (y.mapError c.report) := by
    refine (Alike.iff_mapError.mpr h).mapError ?_
    rintro i _ rfl
    exact c.report_under base i
  constructor
  · intro n input inEnum base
    have happend := checkNode_append matcher? c n input base Path.root inEnum
    rw [Path.root, List.append_nil] at happend
    exact hunder happend
  · intro key v node s hnode htype hproperties hblocks
    rw [validateWith_eq, validateWith_eq]
    exact hunder (check_of_only_member matcher? c hnode htype hproperties hblocks)

/-- An enumeration whose second member has a property without a type. -/
def untypedAlternative : Node :=
  .enum [.literal .null, .alternative { Spec.ofTag "object" with
    properties := .declared [("n", .spec .empty)] }]

def untypedMember : Spec :=
  { Spec.ofTag "object" with properties := .declared [("k", untypedAlternative)] }

/-- The property is reported at its path in the member, behind the key of the
member, and at any other path that the member is checked at. -/
theorem untypedMember_reports :
    (∃ r, validateWith (fun _ => none) Catalog.builtin untypedAlternative (.object []) =
      .error r ∧ r.path = [.index 1, .key "n"]) ∧
    (∃ r, validateWith (fun _ => none) Catalog.builtin (.spec untypedMember)
      (.object [("k", .object [])]) = .error r ∧ r.path = [.key "k", .index 1, .key "n"]) ∧
    ∃ r, (checkNode (Catalog.builtin.policy fun _ => none) untypedAlternative
      (some (.object [])) [.index 7] false).mapError Catalog.builtin.report = .error r ∧
      r.path = [.index 7, .index 1, .key "n"] := by
  have hcheck : checkNode (Catalog.builtin.policy fun _ => none) untypedAlternative
      (some (.object [])) Path.root false =
      .error (schemaIssue .requireType [.index 1, .key "n"] {}) := by
    cbv
  have hsettled : untypedAlternative.Settled := Node.settled_enum _
  have halone : validateWith (fun _ => none) Catalog.builtin untypedAlternative (.object []) =
      .error (Catalog.builtin.report (schemaIssue .requireType [.index 1, .key "n"] {})) := by
    rw [validateWith_eq, check, extend, hsettled.extend_eq]
    exact congrArg (Except.mapError Catalog.builtin.report) hcheck
  obtain ⟨hpaths, hmembers⟩ := validation_is_relative (fun _ => none) Catalog.builtin
  refine ⟨⟨_, halone, rfl⟩, ?_, ?_⟩
  · have hmember := hmembers "k" (.object []) untypedAlternative untypedMember hsettled rfl rfl rfl
    rw [halone] at hmember
    obtain ⟨r, hr, hunder⟩ := hmember.exists_of_error
    exact ⟨r, hr, hunder.path⟩
  · have hbelow := hpaths untypedAlternative (some (.object [])) false [.index 7]
    rw [hcheck] at hbelow
    obtain ⟨r, hr, hunder⟩ := hbelow.exists_of_error
    exact ⟨r, hr, hunder.path⟩

end Conform
