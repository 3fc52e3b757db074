import ShardManifest.Proofs.CompilationOutcome

/-!
# Compilations that end alike

Two compilations end alike when both fail with one fault, or both succeed. The checks look at the
name of an installation and at the names of its clusters, and after them only the deployments, their
expected number, what they select and the templates behind it can make a compilation fail. Whatever
else two installations differ in shows in their objects alone.

## Main definitions

- `OutcomesAgree`: the same fault, or values that are related
- `Basis.SelectsAlike`: two bases of which all StatefulSets fail alike

## Main results

- `Installation.outcomesAgree_of_selectsAlike`: what makes two compilations end alike
-/

namespace ShardManifest

/-- Two outcomes are the same fault, or two values that are related. -/
inductive OutcomesAgree {ε α : Type} (R : α → α → Prop) : Except ε α → Except ε α → Prop
  | fault (e : ε) : OutcomesAgree R (.error e) (.error e)
  | value {a b : α} (h : R a b) : OutcomesAgree R (.ok a) (.ok b)

theorem OutcomesAgree.related {ε α : Type} {R : α → α → Prop} {x y : Except ε α} {a b : α}
    (h : OutcomesAgree R x y) (hx : x = .ok a) (hy : y = .ok b) : R a b := by
  subst hx
  subst hy
  cases h with
  | value h => exact h

namespace Basis

/-- Two bases have the same deployments, which select the same of the same templates. -/
structure SelectsAlike (b b' : Basis) : Prop where
  deployments : b'.deployments = b.deployments
  selections : b'.selections = b.selections
  templates : b'.templates = b.templates

theorem SelectsAlike.resolved_eq {b b' : Basis} (h : b.SelectsAlike b') (d : String) :
    b'.resolved d = b.resolved d := by
  rw [resolved, resolved, h.selections]

theorem SelectsAlike.selectsEmptyPod_iff {b b' : Basis} (h : b.SelectsAlike b')
    {template d : String} : b'.SelectsEmptyPod template d ↔ b.SelectsEmptyPod template d := by
  rw [SelectsEmptyPod, SelectsEmptyPod, h.resolved_eq, h.templates]

/-- The StatefulSets of bases that select alike end alike. -/
theorem SelectsAlike.outcomesAgree_statefulSets {b b' : Basis} (h : b.SelectsAlike b')
    (hb : b.Consistent) (hb' : b'.Consistent) :
    OutcomesAgree (fun sets sets' => sets = b.deployments.map b.replicaSet ∧
        sets' = b'.deployments.map b'.replicaSet)
      b.statefulSets.outcome b'.statefulSets.outcome := by
  cases hsets : b.statefulSets.outcome with
  | ok sets =>
    obtain ⟨hne, hsets⟩ := (statefulSets_eq_ok_iff hb).1 hsets
    have hne' : ∀ d ∈ b'.deployments, ∀ template, ¬b'.SelectsEmptyPod template d := by
      intro d hd template hempty
      rw [h.deployments] at hd
      exact hne d hd template (h.selectsEmptyPod_iff.1 hempty)
    rw [(statefulSets_eq_ok_iff hb').2 ⟨hne', rfl⟩]
    exact .value ⟨hsets, rfl⟩
  | error fault =>
    have hfault := (statefulSets_eq_error_iff hb).1 hsets
    simp only [← h.selectsEmptyPod_iff, ← h.deployments] at hfault
    rw [(statefulSets_eq_error_iff hb').2 hfault]
    exact .fault fault

end Basis

namespace Installation

variable {i i' : Installation} {o o' : Options} {R : Objects → Objects → Prop}

/-- Two compilations end alike if the installations pass the same checks, room is made for the same
number of deployments and their bases select alike; what the objects have to do with each other is
then told by the bases. -/
theorem outcomesAgree_of_selectsAlike (hname : i'.name? = i.name?)
    (hvalid : i'.spec.validate = i.spec.validate)
    (hcapacity : Topology.capacity i'.spec = Topology.capacity i.spec)
    (hbasis : ∀ name, (i.basisNamed o name).SelectsAlike (i'.basisNamed o' name))
    (hobjects : ∀ name, i.name? = some name →
      R (i.basisNamed o name).objects (i'.basisNamed o' name).objects) :
    OutcomesAgree R (i.compile o).outcome (i'.compile o').outcome := by
  cases hnamed : i.name? with
  | none =>
    rw [compile_of_nameless hnamed, compile_of_nameless (hname.trans hnamed)]
    exact .fault _
  | some name =>
    cases hchecked : i.spec.validate with
    | error fault =>
      rw [compile_of_misnamed hnamed hchecked,
        compile_of_misnamed (hname.trans hnamed) (hvalid.trans hchecked)]
      exact .fault fault
    | ok _ =>
      by_cases hroom : Topology.HasRoom (Topology.capacity i.spec)
      · have hsets := (hbasis name).outcomesAgree_statefulSets (i.consistent_basisNamed o name)
          (i'.consistent_basisNamed o' name)
        rw [compile_of_checked hnamed hchecked hroom,
          compile_of_checked (hname.trans hnamed) (hvalid.trans hchecked) (hcapacity ▸ hroom)]
        revert hsets
        generalize (i.basisNamed o name).statefulSets.outcome = x
        generalize (i'.basisNamed o' name).statefulSets.outcome = y
        rintro (⟨fault⟩ | ⟨rfl, rfl⟩)
        · exact .fault fault
        · exact .value (hobjects name hnamed)
      · rw [compile_of_overbooked hnamed hchecked hroom,
          compile_of_overbooked (hname.trans hnamed) (hvalid.trans hchecked) (hcapacity ▸ hroom)]
        exact .fault _

end Installation

end ShardManifest
