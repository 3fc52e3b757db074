import Mathlib.Data.List.Dedup
import ShardManifest.Proofs.SelectionLookup

/-!
# Shared selections

The selection behind a fingerprint is resolved once, for the first replica that has it, and answers
for all others that have it. As long as no two different selections have one digest this is as good
as resolving the selection of every replica, and there are as many entries as different selections.

## Main definitions

- `Selection.KeptBy`: what a library keeps of a selection
- `Spec.selectionIndex`: the index of the selections of a specification

## Main results

- `Selection.keptBy_value_resolve`: resolving keeps what the library declares
- `SelectionIndex.distinct_ofTopology`: the index counts fingerprints
- `SelectionIndex.fingerprint?_eq_none_iff`: identifiers that were not walked are not in the index
- `Spec.selectionIndex_agrees`: the index agrees with resolving replica by replica
-/

namespace ShardManifest

/-! ### What a library keeps -/

/-- A library keeps each name of a selection that it declares, and no other name. -/
structure Selection.KeptBy (library : TemplateLibrary) (s kept : Selection) : Prop where
  podTemplate : ∀ name, kept.podTemplate = some name ↔
    s.podTemplate = some name ∧ ∃ t ∈ library.pods, t.name = name
  claimTemplate : ∀ name, kept.claimTemplate = some name ↔
    s.claimTemplate = some name ∧ ∃ t ∈ library.claims, t.name = name

namespace TemplateIndex

theorem contains_pods_ofLibrary_iff {l : TemplateLibrary} {name : String} :
    (ofLibrary l).value.pods.contains name = true ↔ ∃ t ∈ l.pods, t.name = name := by
  rw [Dictionary.contains, get?_pods_ofLibrary, Option.isSome_map, Option.isSome_iff_exists,
    TemplateLibrary.pod?, exists_lastNamed_eq_some_iff]

theorem contains_claims_ofLibrary_iff {l : TemplateLibrary} {name : String} :
    (ofLibrary l).value.claims.contains name = true ↔ ∃ t ∈ l.claims, t.name = name := by
  rw [Dictionary.contains, get?_claims_ofLibrary, Option.isSome_map, Option.isSome_iff_exists,
    TemplateLibrary.claim?, exists_lastNamed_eq_some_iff]

end TemplateIndex

theorem Selection.keptBy_value_resolve (l : TemplateLibrary) (deployment : String) (s : Selection) :
    s.KeptBy l (s.resolve (TemplateIndex.ofLibrary l).value deployment).value := by
  rw [value_resolve]
  constructor
  · intro name
    rw [← TemplateIndex.contains_pods_ofLibrary_iff]
    exact Option.filter_eq_some_iff
  · intro name
    rw [← TemplateIndex.contains_claims_ofLibrary_iff]
    exact Option.filter_eq_some_iff

/-! ### How many entries there are -/

/-- What is told apart by a function is counted by its values. -/
theorem length_dedup_map {α β : Type} [DecidableEq α] [DecidableEq β] {f : α → β} {l : List α}
    (h : ∀ a ∈ l, ∀ b ∈ l, f a = f b → a = b) : (l.map f).dedup.length = l.dedup.length := by
  have hnodup : (l.dedup.map f).Nodup := by
    refine (List.nodup_dedup l).map_on ?_
    intro a ha b hb hab
    exact h a (List.mem_dedup.1 ha) b (List.mem_dedup.1 hb) hab
  have hmem : ∀ b, b ∈ (l.map f).dedup ↔ b ∈ l.dedup.map f := by
    intro b
    simp only [List.mem_dedup, List.mem_map]
  have hperm : (l.map f).dedup.Perm (l.dedup.map f) :=
    (List.perm_ext_iff_of_nodup (List.nodup_dedup _) hnodup).2 hmem
  rw [hperm.length_eq, List.length_map]

namespace SelectionIndex

variable {templates : TemplateIndex}

theorem mem_keys_selections_enterAll {index : SelectionIndex} {rs : List Replica} {hex : String} :
    hex ∈ (enterAll templates index rs).value.selections.keys ↔
      hex ∈ index.selections.keys ∨ ∃ r ∈ rs, r.fingerprint.hex = hex := by
  have hfound : (∃ r, rs.find? (fun r => r.fingerprint.hex = hex) = some r) ↔
      ∃ r ∈ rs, r.fingerprint.hex = hex := by
    rw [← Option.isSome_iff_exists, List.find?_isSome]
    simp only [decide_eq_true_eq]
  rw [Dictionary.mem_keys_iff, Dictionary.mem_keys_iff, get?_selections_enterAll, ← hfound]
  cases index.selections.get? hex <;> simp

/-- The index has an entry for each fingerprint that occurs. -/
theorem distinct_ofTopology (t : Topology) (templates : TemplateIndex) :
    (ofTopology t templates).value.distinct =
      (t.placements.map fun p => p.replica.fingerprint.hex).dedup.length := by
  rw [distinct, ← List.card_toFinset]
  refine Dictionary.size_eq_card fun hex => ?_
  have hempty : hex ∉ empty.selections.keys := List.not_mem_nil
  rw [ofTopology, mem_keys_selections_enterAll]
  simp [hempty]

/-- Where digests tell selections, the index has an entry for each selection that occurs. -/
theorem distinct_walk {s : Spec} (hs : s.DigestsTellSelections) :
    (ofTopology (Topology.walk s) templates).value.distinct =
      ((Topology.walk s).placements.map fun p => p.replica.selection).dedup.length := by
  have htold : ∀ a ∈ (Topology.walk s).placements.map (fun p => p.replica.selection),
      ∀ b ∈ (Topology.walk s).placements.map (fun p => p.replica.selection),
        (Fingerprint.of a).hex = (Fingerprint.of b).hex → a = b := by
    intro a ha b hb hhex
    obtain ⟨p, hp, rfl⟩ := List.mem_map.1 ha
    obtain ⟨q, hq, rfl⟩ := List.mem_map.1 hb
    by_contra hne
    rw [← Fingerprint.mk.injEq] at hhex
    exact hs p hp q hq hne (Fingerprint.of_eq_of_iff.1 hhex)
  rw [distinct_ofTopology, ← length_dedup_map htold, List.map_map]
  rfl

/-! ### Identifiers that were not walked -/

theorem fingerprint?_eq_none_iff {t : Topology} {d : String} :
    (ofTopology t templates).value.fingerprint? d = none ↔ d ∉ t.deployments := by
  have hmem : d ∈ (ofTopology t templates).value.deployments ↔ d ∈ t.deployments :=
    mem_deployments_ofTopology
  rw [← hmem, deployments, Dictionary.mem_keys_iff, ← Option.isSome_iff_exists,
    Option.not_isSome_iff_eq_none]
  rfl

theorem selection?_eq_none_of_fingerprint? {index : SelectionIndex} {d : String}
    (h : index.fingerprint? d = none) : index.selection? d = none := by
  rw [selection?, h]
  rfl

end SelectionIndex

/-! ### The index of a specification -/

/-- The index of the selections of a specification. -/
def Spec.selectionIndex (s : Spec) : SelectionIndex :=
  (SelectionIndex.ofTopology (Topology.walk s) (TemplateIndex.ofLibrary s.templates).value).value

theorem Spec.selection?_selectionIndex {s : Spec} (hs : s.DigestsTellSelections) {p : Placement}
    (hp : p ∈ (Topology.walk s).placements) :
    s.selectionIndex.selection? p.replica.deployment =
      some (p.replica.selection.declaredIn (TemplateIndex.ofLibrary s.templates).value) :=
  SelectionIndex.selection?_walk hs hp

/-- The index agrees with resolving replica by replica, if no two different selections have one
digest: every replica is found under its identifier with its own fingerprint and with what the
library keeps of its own selection, there are as many entries as different selections, and other
identifiers are not found. -/
theorem Spec.selectionIndex_agrees (s : Spec) (hs : s.DigestsTellSelections) :
    (∀ p ∈ (Topology.walk s).placements,
      s.selectionIndex.fingerprint? p.replica.deployment = some (.of p.replica.selection) ∧
      ∃ kept, s.selectionIndex.selection? p.replica.deployment = some kept ∧
        kept = (p.replica.selection.resolve (TemplateIndex.ofLibrary s.templates).value
          p.replica.deployment).value ∧
        p.replica.selection.KeptBy s.templates kept) ∧
    s.selectionIndex.distinct =
      ((Topology.walk s).placements.map fun p => p.replica.selection).dedup.length ∧
    ∀ d, d ∉ (Topology.walk s).deployments →
      s.selectionIndex.fingerprint? d = none ∧ s.selectionIndex.selection? d = none := by
  refine ⟨?walked, SelectionIndex.distinct_walk hs, ?unwalked⟩
  case walked =>
    intro p hp
    refine ⟨SelectionIndex.fingerprint?_walk hp, _, ?_, rfl,
      Selection.keptBy_value_resolve s.templates p.replica.deployment p.replica.selection⟩
    rw [Selection.value_resolve]
    exact Spec.selection?_selectionIndex hs hp
  case unwalked =>
    intro d hd
    have hnone : s.selectionIndex.fingerprint? d = none :=
      SelectionIndex.fingerprint?_eq_none_iff.2 hd
    exact ⟨hnone, SelectionIndex.selection?_eq_none_of_fingerprint? hnone⟩

/-- A pod template that is not declared, with a claim template that is. -/
def Selection.partlyDeclared : Selection := ⟨some "absent", some "data"⟩

/-- Three replicas of which the second one selects templates. -/
def Spec.mixed : Spec :=
  { Spec.ofClusters [⟨"main", ⟨.advanced, none, none, [⟨none, none, .unset, none,
      [⟨none, .unset⟩, ⟨none, .partlyDeclared⟩, ⟨none, .unset⟩]⟩]⟩, .unset⟩] with
    templates := ⟨[], [⟨"data", ⟨.unset, .empty⟩⟩]⟩ }

theorem Spec.digestsTellSelections_mixed : Spec.mixed.DigestsTellSelections := by
  have hselections : ∀ p ∈ (Topology.walk Spec.mixed).placements,
      p.replica.selection = .unset ∨ p.replica.selection = .partlyDeclared := by
    decide
  have hdigests : Selection.unset.digest ≠ Selection.partlyDeclared.digest := by
    decide +kernel
  intro p hp q hq hne
  rcases hselections p hp with hp | hp <;> rcases hselections q hq with hq | hq
  · exact absurd (hp.trans hq.symm) hne
  · rw [hp, hq]
    exact hdigests
  · rw [hp, hq]
    exact hdigests.symm
  · exact absurd (hp.trans hq.symm) hne

theorem Spec.selectionIndex_agrees_mixed :
    Spec.mixed.selectionIndex.distinct = 2 ∧
      ∃ p ∈ (Topology.walk Spec.mixed).placements,
        p.replica.selection = ⟨some "absent", some "data"⟩ ∧
        Spec.mixed.selectionIndex.selection? p.replica.deployment =
          some ⟨none, some "data"⟩ := by
  obtain ⟨hwalked, hdistinct, -⟩ := Spec.selectionIndex_agrees Spec.mixed
    Spec.digestsTellSelections_mixed
  obtain ⟨p, hp⟩ : ∃ p, (Topology.walk Spec.mixed).at? 0 0 1 = some p := ⟨_, rfl⟩
  have hmem := Topology.mem_placements_iff_at?.2 ⟨_, _, _, hp⟩
  obtain ⟨-, kept, hkept, hresolve, -⟩ := hwalked p hmem
  cases hp
  exact ⟨hdistinct, _, hmem, rfl, hkept.trans (congrArg some hresolve)⟩

end ShardManifest
