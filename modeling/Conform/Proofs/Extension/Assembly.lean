import Conform.Proofs.Check.Parts
import Conform.Proofs.Extension.Frame
import Conform.Proofs.Runs
import Conform.Proofs.Schema.Tables

/-!
# Schemas that are assembled step by step

Nodes and tables are read, written, merged, injected, extended, taken apart and put
together again.  Whatever the steps are, no table in what they leave has a key
twice, and so an object is checked key by key, each of its declared keys against
the one node that the table has for it.
-/
namespace Conform

section
variable {root : Json} {s : Spec}

theorem Node.WellKeyed.injectAll {extras : List (Table Node)} (h : (Node.spec s).WellKeyed)
    (hextras : ∀ extra ∈ extras, Table.WellKeyed extra) :
    (Node.spec (extras.foldl Spec.inject s)).WellKeyed := by
  induction extras generalizing s with
  | nil => exact h
  | cons extra rest ih =>
    rw [List.forall_mem_cons] at hextras
    exact ih (h.inject hextras.1) hextras.2

/-- What the blocks inject are tables of the specification itself. -/
theorem Node.WellKeyed.applied (h : (Node.spec s).WellKeyed) (root : Json) :
    (Node.spec (s.applied root)).WellKeyed := by
  rw [Spec.applied_eq_injections]
  refine h.withoutBlocks.injectAll fun extra hextra => ?_
  obtain ⟨b, hb, hadds⟩ := Spec.adds_of_mem_injections hextra
  exact (Node.wellKeyed_spec_iff.mp h).1 extra (.added hb hadds)

theorem Node.WellKeyed.extended {n : Node} (h : n.WellKeyed) (root : Json) :
    (n.extended root).WellKeyed := by
  induction Path.root, n using Node.applied_induction root with
  | tag here name => rwa [extended_tag]
  | enum here members => rwa [extended_enum]
  | spec here s ih =>
    have happlied := h.applied root
    have hentries : Table.WellKeyed (s.applied root).properties.entries := happlied.entries
    rw [extended_spec]
    refine happlied.withProperties fun t ht => ?_
    cases hp : (s.applied root).properties with
    | undeclared | malformed =>
      rw [hp] at ht
      cases ht
    | declared table =>
      rw [hp] at ht hentries ih
      cases ht
      exact hentries.mapValues fun e he => ih e.1 e.2 he (hentries.2 e he)

theorem wellKeyed_of_extend {p : Policy} {schema extended : Node} {input : Json}
    (hschema : schema.WellKeyed) (h : extend p schema input = .ok extended) :
    extended.WellKeyed := by
  have hresult : p.outcome (schema.fieldIssues input Path.root) (schema.extended input) =
      .ok extended := (Node.extend_eq_outcome p input Path.root schema).symm.trans h
  exact Policy.eq_of_outcome hresult ▸ hschema.extended input

end

/-! ## Steps -/

/-- A node or a table. -/
inductive Piece where
  | node (n : Node)
  | table (t : Table Node)

namespace Piece

/-- The piece is the table, or has it somewhere within. -/
inductive HasTable : Piece → Table Node → Prop where
  | self (t : Table Node) : HasTable (table t) t
  | inNode {n : Node} {s : Spec} {t : Table Node} (hs : n.Includes (.spec s))
    (ht : s.HasTable t) : HasTable (node n) t
  | inEntry {t u : Table Node} {e : String × Node} {s : Spec} (he : e ∈ t)
    (hs : e.2.Includes (.spec s)) (hu : s.HasTable u) : HasTable (table t) u

def WellKeyed : Piece → Prop
  | node n => n.WellKeyed
  | table t => Table.WellKeyed t

theorem WellKeyed.nodup_keys {x : Piece} (h : x.WellKeyed) {t : Table Node}
    (ht : x.HasTable t) : t.keys.Nodup := by
  cases ht with
  | self => exact h.1
  | inNode hs ht => exact h _ hs t ht
  | inEntry he hs hu => exact h.2 _ he _ hs t hu

/-- What one operation makes of the pieces at hand. -/
inductive Makes (ps : List Piece) : Piece → Prop where
  | read {v : Json} (hv : v.Distinct) : Makes ps (node (.ofJson v))
  | readTable {ms : Table Json} (hms : (Json.object ms).Distinct) : Makes ps (table (tableOf ms))
  | empty : Makes ps (table [])
  | insert {t : Table Node} {n : Node} (key : String) (ht : table t ∈ ps) (hn : node n ∈ ps) :
    Makes ps (table (Table.insert t key n))
  | merge {t extra : Table Node} (ht : table t ∈ ps) (he : table extra ∈ ps) :
    Makes ps (table (Table.merge t extra))
  | inject {s : Spec} {extra : Table Node} (hs : node (.spec s) ∈ ps) (he : table extra ∈ ps) :
    Makes ps (node (.spec (s.inject extra)))
  | extend {p : Policy} {schema extended : Node} {input : Json} (hn : node schema ∈ ps)
    (h : Conform.extend p schema input = .ok extended) : Makes ps (node extended)
  | takeEntry {t : Table Node} {e : String × Node} (ht : table t ∈ ps) (he : e ∈ t) :
    Makes ps (node e.2)
  | takePart {n m : Node} (hn : node n ∈ ps) (hm : n.HasPart m) : Makes ps (node m)
  | takeTable {s : Spec} {t : Table Node} (hs : node (.spec s) ∈ ps) (ht : s.HasTable t) :
    Makes ps (table t)
  /-- A node may be put together of any tables and parts; to edit a node within
  another one is to take the outer one apart and to put it together again. -/
  | assemble {n : Node} (htables : ∀ s, n = .spec s → ∀ t, s.HasTable t → table t ∈ ps)
    (hparts : ∀ m, n.HasPart m → node m ∈ ps) : Makes ps (node n)

variable {ps qs : List Piece} {x : Piece}

theorem Makes.wellKeyed (h : Makes ps x) (hps : ∀ y ∈ ps, y.WellKeyed) : x.WellKeyed := by
  have hnode {n : Node} (hn : node n ∈ ps) : n.WellKeyed := hps _ hn
  have htable {t : Table Node} (ht : table t ∈ ps) : Table.WellKeyed t := hps _ ht
  cases h with
  | read hv => exact Node.wellKeyed_ofJson hv
  | readTable hms => exact Table.wellKeyed_tableOf hms
  | empty => exact Table.wellKeyed_nil
  | insert key ht hn => exact (htable ht).insert (hnode hn)
  | merge ht he => exact (htable ht).merge (htable he)
  | inject hs he => exact (hnode hs).inject (htable he)
  | extend hn h => exact wellKeyed_of_extend (hnode hn) h
  | takeEntry ht he => exact (htable ht).2 _ he
  | takePart hn hm => exact (hnode hn).of_includes (.single hm)
  | takeTable hs ht => exact (Node.wellKeyed_spec_iff.mp (hnode hs)).1 _ ht
  | assemble htables hparts =>
    exact (Node.wellKeyed_iff _).mpr
      ⟨fun s hs t ht => (htable (htables s hs t ht)).1, fun m hm => hnode (hparts m hm)⟩

/-- One more piece is at hand; what was there stays. -/
inductive Step : List Piece → List Piece → Prop where
  | make {ps : List Piece} {x : Piece} (h : Makes ps x) : Step ps (x :: ps)

/-- The pieces are at hand after some steps. -/
def AtHand : List Piece → Prop := Relation.ReflTransGen Step []

theorem Step.wellKeyed (h : Step ps qs) (hps : ∀ y ∈ ps, y.WellKeyed) : ∀ y ∈ qs, y.WellKeyed := by
  cases h with
  | make h => exact List.forall_mem_cons.mpr ⟨h.wellKeyed hps, hps⟩

theorem AtHand.wellKeyed (h : AtHand ps) : ∀ x ∈ ps, x.WellKeyed := by
  induction h with
  | refl => exact List.forall_mem_nil _
  | tail _ hstep ih => exact hstep.wellKeyed ih

end Piece

/-! ## Checks key by key -/

/-- Check the member at a key, or its absence, against the node that a table has for
the key. -/
def checkKey (p : Policy) (table : Table Node) (ms : Table Json) (here : Path) (key : String) :
    Except Issue Unit :=
  match table.get? key with
  | some node => checkNode p node (ms.get? key) (here.child (.key key)) false
  | none => return

theorem checkTable_eq_keys {p : Policy} {table : Table Node} (h : table.keys.Nodup)
    (ms : Table Json) (here : Path) :
    checkTable p table ms here = forM table.keys (checkKey p table ms here) := by
  rw [checkTable_eq_forM, Table.keys, List.forM_map]
  refine RunRelation.same.forM_rel (List.forall₂_same.mpr fun e he => ?_)
  have hnode : table.get? e.1 = some e.2 := (Table.get?_eq_some_iff h).mpr he
  change _ = checkKey p table ms here e.1
  rw [checkKey, hnode]

theorem checkDeclared_eq_keys {p : Policy} {s : Spec} (h : s.properties.entries.keys.Nodup)
    (ms : Table Json) (here : Path) : checkDeclared p s.properties ms here =
      forM s.properties.entries.keys (checkKey p s.properties.entries ms here) := by
  cases hp : s.properties with
  | declared table =>
    rw [hp] at h
    exact checkTable_eq_keys h ms here
  | undeclared | malformed => rfl

/-- No table in any piece that is at hand after some steps has a key twice, so that
the node that is found for a key is that of its only entry.  An input is checked
against the extension of a schema at hand, and in there every object goes through
distinct keys, each with the one node that the table has for it. -/
theorem tables_keep_keys_apart {ps : List Piece} (h : Piece.AtHand ps) :
    (∀ x ∈ ps, ∀ t, x.HasTable t → t.keys.Nodup ∧
      ∀ key, t.filter (fun e => e.1 = key) = ((t.get? key).map fun n => (key, n)).toList) ∧
    ∀ (p : Policy) (schema extended : Node) (input : Json), .node schema ∈ ps →
      extend p schema input = .ok extended →
        check p schema input = checkNode p extended (some input) Path.root false ∧
        ∀ s, extended.Includes (.spec s) → s.properties.entries.keys.Nodup ∧
          ∀ ms here, checkDeclared p s.properties ms here =
            forM s.properties.entries.keys (checkKey p s.properties.entries ms here) := by
  have hps := h.wellKeyed
  constructor
  · intro x hx t ht
    have hdistinct := (hps x hx).nodup_keys ht
    exact ⟨hdistinct, Table.filter_key_eq hdistinct⟩
  · intro p schema extended input hschema hextend
    have hextended : extended.WellKeyed := wellKeyed_of_extend (hps _ hschema) hextend
    refine ⟨by rw [check, hextend]; rfl, fun s hs => ?_⟩
    have hdistinct := (hextended.of_includes hs).entries.1
    exact ⟨hdistinct, checkDeclared_eq_keys hdistinct⟩

/-- A rule writes `n` over and `m` anew. -/
def kindSchema : Json :=
  .object [("type", .string "object"),
    ("properties", .object [("k", .string "string"), ("n", .string "integer")]),
    ("if", .object [("value", .string "k"), ("conditions", .object [("operator", .string "="),
      ("value", .string "a"),
      ("addProperties", .object [("n", .string "null"), ("m", .string "string")])])])]

def kindTable : Table Node := [("k", .tag "string"), ("n", .tag "null"), ("m", .tag "string")]

def kindExtended : Node := .spec { Spec.ofTag "object" with properties := .declared kindTable }

/-- The table of an extension, and the same with the schema written over its first
entry. -/
theorem kindTable_keeps_keys_apart :
    Piece.AtHand [.table (kindTable.insert "k" (.ofJson kindSchema)), .table kindTable,
      .node kindExtended, .node (.ofJson kindSchema)] ∧
    (kindTable.insert "k" (.ofJson kindSchema)).filter (fun e => e.1 = "k") =
      [("k", .ofJson kindSchema)] ∧
    extend .silent (.ofJson kindSchema) (.object [("k", .string "a")]) = .ok kindExtended ∧
    ∀ ms here, checkDeclared .silent (.declared kindTable) ms here =
      forM ["k", "n", "m"] (checkKey .silent kindTable ms here) := by
  have hextend : extend .silent (.ofJson kindSchema) (.object [("k", .string "a")]) =
      .ok kindExtended := by cbv
  have hdistinct : kindSchema.Distinct := by simp [kindSchema, Table.keys]
  have hhas : Spec.HasTable { Spec.ofTag "object" with properties := .declared kindTable }
      kindTable := .declared rfl
  have hread : Piece.AtHand [.node (.ofJson kindSchema)] := .single (.make (.read hdistinct))
  have hextended := hread.tail (.make (.extend (.head _) hextend))
  have htaken := hextended.tail (.make (.takeTable (.head _) hhas))
  have hwritten := htaken.tail
    (.make (.insert (n := .ofJson kindSchema) "k" (.head _) (.tail _ (.tail _ (.head _)))))
  obtain ⟨htables, hchecks⟩ := tables_keep_keys_apart hwritten
  obtain ⟨-, hkeys⟩ := hchecks .silent _ _ _ (.tail _ (.tail _ (.tail _ (.head _)))) hextend
  exact ⟨hwritten, (htables _ (.head _) _ (.self _)).2 "k", hextend, (hkeys _ .refl).2⟩

end Conform
