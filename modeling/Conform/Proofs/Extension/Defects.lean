import Conform.Proofs.Extension.Walk
import Conform.Proofs.Schema.Defects

/-!
# Extension brings no defects

The walk stops only at a field that is not a path, and what it builds has no
defect that the schema did not have: a specification keeps its type, its items
and its limits, loses its blocks, and gains properties that it held already.
-/
namespace Conform
variable {p : Policy} {root : Json} {here : Path} {matcher? : String → Option (String → Bool)}

theorem Node.extend_stops (matcher? : String → Option (String → Bool)) (n : Node) :
    p.StopsWith (n.extend p root here) fun i =>
      i.domain = .schema ∧ i.code = .invalidPath ∧ n.HasDefect matcher? .invalidPath := by
  induction here, n using Node.extension_induction Issue p root with
  | tag here name =>
    rw [extend_tag]
    exact Policy.stopsWith_ok _
  | enum here members =>
    rw [extend_enum]
    exact Policy.stopsWith_ok _
  | spec here s ih =>
    rw [extend_spec]
    refine .bind (Spec.applyConditions_stops.imp ?_) ?_
    · rintro i ⟨b, hb, e, he, rfl⟩
      exact ⟨rfl, rfl, (Defect.invalidPath hb he).hasDefect⟩
    · intro s' hs
      refine .bind (Properties.extend_stops ?_) fun ps _ => Policy.stopsWith_pure _
      intro key node hn
      apply (ih s' key node hs hn).imp
      rintro i ⟨hdomain, hcode, hdefect⟩
      exact ⟨hdomain, hcode, hdefect.of_holds (Spec.holds_of_applyConditions hs hn)⟩

theorem Properties.malformed_of_extend {ps : Properties} {raw : Json}
    (h : ps.extend p root here = .ok (.malformed raw)) : ps = .malformed raw := by
  cases ps with
  | declared table =>
    rw [extend_declared] at h
    cases ht : extendTable p root here table <;> rw [ht] at h <;> cases h
  | undeclared => cases h
  | malformed raw' =>
    cases h
    rfl

/-- A specification and its extension differ in their properties and blocks. -/
theorem Spec.defect_of_extend {s s' : Spec} {ps : Properties} {code : IssueCode}
    (hs : s.applyConditions p root here = .ok s') (hps : s'.properties.extend p root here = .ok ps)
    (h : (Node.spec { s' with properties := ps }).Defect matcher? code) :
    (Node.spec s).Defect matcher? code := by
  have hgrows := applyConditions_grows hs
  rw [hgrows.same] at h
  generalize hn : Node.spec { { { s with conditions := [] } with properties := s'.properties }
    with properties := ps } = n at h
  cases h with
  | @properties s'' raw h =>
    cases hn
    have hps' : ps = .malformed raw := h
    have hraw : s'.properties = .malformed raw := Properties.malformed_of_extend (hps' ▸ hps)
    exact .properties (hgrows.malformed raw hraw)
  | requireType h => cases hn; exact .requireType h
  | unknownTag h => cases hn
  | unknownType h hname => cases hn; exact .unknownType h hname
  | malformedType h => cases hn; exact .malformedType h
  | maxBound m h hraw => cases hn; exact .maxBound m h hraw
  | minBound m h hraw => cases hn; exact .minBound m h hraw
  | vacuous m h hbound => cases hn; exact .vacuous m h hbound
  | pattern h hsource => cases hn; exact .pattern h hsource
  | nestedList h => subst hn; exact .nestedList h
  | nestedEnum h ha => subst hn; exact .nestedEnum h ha
  | invalidPath h hb => cases hn; cases h

/-- What an extension holds is the extension of a property, or a part of the
specification outside of its properties and blocks. -/
theorem Spec.holds_of_extend {s s' : Spec} {ps : Properties} {child : Node}
    (hs : s.applyConditions p root here = .ok s') (hps : s'.properties.extend p root here = .ok ps)
    (h : (Node.spec { s' with properties := ps }).Holds child) :
    (∃ key node, (key, node) ∈ s'.properties.entries ∧
      node.extend p root (here.child (.key key)) = .ok child) ∨ (Node.spec s).Holds child := by
  rw [(applyConditions_grows hs).same] at h
  generalize hn : Node.spec { { { s with conditions := [] } with properties := s'.properties }
    with properties := ps } = n at h
  cases h with
  | @property s'' table key node h hmem =>
    cases hn
    have hentry : (key, child) ∈ ps.entries := by
      have hps' : ps = .declared table := h
      rw [hps']
      exact hmem
    obtain ⟨node, hnode, hext⟩ := Properties.mem_entries_of_extend hps hentry
    exact .inl ⟨key, node, hnode, hext⟩
  | item h => cases hn; exact .inr (.item h)
  | alternative h => subst hn; exact .inr (.alternative h)
  | added h ha hmem => cases hn; cases h

theorem Node.hasDefect_of_extend {n n' : Node} {code : IssueCode}
    (h : n.extend p root here = .ok n') (hd : n'.HasDefect matcher? code) :
    n.HasDefect matcher? code := by
  induction here, n using Node.extension_induction Issue p root generalizing n' with
  | tag here name =>
    rw [extend_tag] at h
    cases h
    exact hd
  | enum here members =>
    rw [extend_enum] at h
    cases h
    exact hd
  | spec here s ih =>
    obtain ⟨s', ps, hs, hps, rfl⟩ := extend_spec_eq_ok_iff.mp h
    rcases hasDefect_iff.mp hd with hd | ⟨child, hc, hd⟩
    · exact (Spec.defect_of_extend hs hps hd).hasDefect
    · rcases Spec.holds_of_extend hs hps hc with ⟨key, node, hn, hext⟩ | hc
      · exact (ih s' key node hs hn hext hd).of_holds (Spec.holds_of_applyConditions hs hn)
      · exact hd.of_holds hc

theorem Node.DefectFree.extend {n : Node} (h : n.DefectFree matcher?) :
    ∃ n', n.extend p root here = .ok n' ∧ n'.DefectFree matcher? := by
  cases hn : n.extend p root here with
  | error i =>
    obtain ⟨_, _, _, hd⟩ := n.extend_stops matcher? i hn
    exact absurd hd (h _)
  | ok n' => exact ⟨n', rfl, fun code hd => h code (hasDefect_of_extend hn hd)⟩

end Conform
