import ShardManifest.Proofs.Placements
import ShardManifest.Proofs.TemplateLookup
import ShardManifest.SelectionIndex

/-!
# What the index of selections answers

The index is filled replica by replica. A deployment answers with the fingerprint of its last
replica, a fingerprint with what the first replica of that fingerprint selects. In a walk every
deployment has one replica; if moreover no two different selections have one digest, every
deployment answers with its own selection, of which the undeclared names are dropped.

## Main definitions

- `Selection.declaredIn`: the declared names of a selection
- `Spec.DigestsTellSelections`: no two different selections of a specification have one digest

## Main results

- `SelectionIndex.get?_fingerprints_enterAll`, `SelectionIndex.get?_selections_enterAll`: what a run
  of entries leaves in the index
- `SelectionIndex.selection?_walk`: a deployment answers with its own selection
-/

namespace ShardManifest

/-- The names of a selection that a library declares. -/
def Selection.declaredIn (templates : TemplateIndex) (s : Selection) : Selection where
  podTemplate := s.podTemplate.filter templates.pods.contains
  claimTemplate := s.claimTemplate.filter templates.claims.contains

theorem value_resolveName {α : Type} (undeclared : String → Event) (declared : Dictionary α)
    (name : Option String) :
    (resolveName undeclared declared name).value = name.filter declared.contains := by
  cases name with
  | none => rfl
  | some name =>
    rw [resolveName, Option.filter_some]
    split <;> rfl

theorem Selection.value_resolve (templates : TemplateIndex) (deployment : String)
    (s : Selection) : (s.resolve templates deployment).value = s.declaredIn templates := by
  simp only [resolve, Logged.value_bind, Logged.value_pure, value_resolveName, declaredIn]

theorem Selection.mem_pods_of_declaredIn {templates : TemplateIndex} {s : Selection} {name : String}
    (h : (s.declaredIn templates).podTemplate = some name) :
    ∃ content, templates.pods.get? name = some content :=
  Dictionary.contains_iff.1 (Option.filter_eq_some_iff.1 h).2

theorem Selection.mem_claims_of_declaredIn {templates : TemplateIndex} {s : Selection}
    {name : String} (h : (s.declaredIn templates).claimTemplate = some name) :
    ∃ claim, templates.claims.get? name = some claim :=
  Dictionary.contains_iff.1 (Option.filter_eq_some_iff.1 h).2

namespace SelectionIndex

variable {templates : TemplateIndex}

/-- One entry: the deployment gets its fingerprint, and a fingerprint that is new its selection. -/
theorem value_enter (index : SelectionIndex) (r : Replica) :
    (index.enter templates r).value =
      ⟨index.fingerprints.insert r.deployment r.fingerprint,
        if index.selections.contains r.fingerprint.hex then index.selections
        else index.selections.insert r.fingerprint.hex (r.selection.declaredIn templates)⟩ := by
  rw [enter]
  split <;> simp [Selection.value_resolve]

theorem value_enterAll_cons (index : SelectionIndex) (r : Replica) (rs : List Replica) :
    (enterAll templates index (r :: rs)).value =
      (enterAll templates (index.enter templates r).value rs).value := rfl

/-- After a run of entries a deployment has the fingerprint of the last replica of its name. -/
theorem get?_fingerprints_enterAll (index : SelectionIndex) (rs : List Replica)
    (deployment : String) :
    (enterAll templates index rs).value.fingerprints.get? deployment =
      ((lastNamed Replica.deployment rs deployment).map Replica.fingerprint).or
        (index.fingerprints.get? deployment) := by
  induction rs generalizing index with
  | nil => rfl
  | cons r rs ih =>
    rw [value_enterAll_cons, ih, lastNamed_cons, value_enter, Dictionary.get?_insert]
    cases lastNamed Replica.deployment rs deployment with
    | some _ => rfl
    | none => by_cases h : r.deployment = deployment <;> simp [h, Ne.symm]

variable (templates) in
/-- After a run of entries a new fingerprint has what its first replica selects. -/
theorem get?_selections_enterAll (index : SelectionIndex) (rs : List Replica) (hex : String) :
    (enterAll templates index rs).value.selections.get? hex =
      (index.selections.get? hex).or
        ((rs.find? fun r => r.fingerprint.hex = hex).map fun r =>
          r.selection.declaredIn templates) := by
  induction rs generalizing index with
  | nil => simp [enterAll]
  | cons r rs ih =>
    rw [value_enterAll_cons, ih, value_enter]
    by_cases hhex : r.fingerprint.hex = hex
    · -- the first replica of this fingerprint, unless the index had the fingerprint before
      subst hhex
      cases hold : index.selections.get? r.fingerprint.hex with
      | some old => simp [Dictionary.contains, hold]
      | none => simp [Dictionary.contains, hold]
    · -- another fingerprint: its selection is what it was
      have hsame : ∀ s, (index.selections.insert r.fingerprint.hex s).get? hex =
          index.selections.get? hex := fun s =>
        Dictionary.get?_insert_of_ne (Ne.symm hhex) _ s
      split <;> simp [hhex, hsame]

/-! ### The index of a walk -/

variable {s : Spec}

theorem lastNamed_replicas_walk {p : Placement} (hp : p ∈ (Topology.walk s).placements) :
    lastNamed Replica.deployment ((Topology.walk s).placements.map Placement.replica)
      p.replica.deployment = some p.replica := by
  refine lastNamed_eq_some_of_mem ?_ (List.mem_map_of_mem hp)
  intro r hr hname
  obtain ⟨q, hq, rfl⟩ := List.mem_map.1 hr
  rw [Topology.eq_of_deployment_eq hq hp hname]

theorem fingerprint?_walk {p : Placement} (hp : p ∈ (Topology.walk s).placements) :
    (ofTopology (Topology.walk s) templates).value.fingerprint? p.replica.deployment =
      some p.replica.fingerprint := by
  rw [fingerprint?, ofTopology, get?_fingerprints_enterAll, lastNamed_replicas_walk hp]
  rfl

/-- A deployment answers with what some replica of its fingerprint selects, the same one whatever
the templates are. -/
theorem exists_selection?_walk {p : Placement} (hp : p ∈ (Topology.walk s).placements) :
    ∃ q ∈ (Topology.walk s).placements, q.replica.fingerprint = p.replica.fingerprint ∧
      ∀ templates, (ofTopology (Topology.walk s) templates).value.selection?
        p.replica.deployment = some (q.replica.selection.declaredIn templates) := by
  have hfound : ((Topology.walk s).placements.map Placement.replica).find?
      (fun r => r.fingerprint.hex = p.replica.fingerprint.hex) ≠ none := by
    intro hnone
    have := List.find?_eq_none.1 hnone p.replica (List.mem_map_of_mem hp)
    exact this (decide_eq_true rfl)
  obtain ⟨r, hr⟩ := Option.ne_none_iff_exists'.1 hfound
  obtain ⟨q, hq, rfl⟩ := List.mem_map.1 (List.mem_of_find?_eq_some hr)
  have hhex : q.replica.fingerprint.hex = p.replica.fingerprint.hex := by
    simpa using List.find?_some hr
  refine ⟨q, hq, ?_, fun templates => ?_⟩
  · rw [← Fingerprint.mk.injEq] at hhex
    exact hhex
  · have hselections := get?_selections_enterAll templates empty
      ((Topology.walk s).placements.map Placement.replica) p.replica.fingerprint.hex
    rw [hr] at hselections
    simp only [selection?, fingerprint?_walk hp]
    exact hselections

theorem mem_deployments_ofTopology {t : Topology} {d : String} :
    d ∈ (ofTopology t templates).value.deployments ↔ d ∈ t.deployments := by
  rw [deployments, Dictionary.mem_keys_iff, ofTopology, Topology.mem_deployments_iff]
  simp only [get?_fingerprints_enterAll, empty, Dictionary.get?_empty, Option.or_none]
  constructor
  · rintro ⟨f, hf⟩
    obtain ⟨r, hr, -⟩ := Option.map_eq_some_iff.1 hf
    obtain ⟨p, hp, rfl⟩ := List.mem_map.1 (mem_of_lastNamed_eq_some hr)
    exact ⟨p, hp, name_of_lastNamed_eq_some hr⟩
  · rintro ⟨p, hp, rfl⟩
    obtain ⟨r, hr⟩ := exists_lastNamed_eq_some_iff.2
      ⟨p.replica, List.mem_map_of_mem hp, rfl⟩
    exact ⟨r.fingerprint, by rw [hr]; rfl⟩

/-- The index of a walk lists the identifiers of the walk, in their order. -/
theorem deployments_ofTopology_walk (s : Spec) (templates : TemplateIndex) :
    (ofTopology (Topology.walk s) templates).value.deployments = (Topology.walk s).deployments :=
  eq_of_ascending_of_mem_iff (Dictionary.keys_pairwise _) (Topology.deployments_ascending s)
    fun _ => mem_deployments_ofTopology

end SelectionIndex

/-- No two different selections of the replicas of a specification have one digest. -/
def Spec.DigestsTellSelections (s : Spec) : Prop :=
  ∀ p ∈ (Topology.walk s).placements, ∀ q ∈ (Topology.walk s).placements,
    p.replica.selection ≠ q.replica.selection →
      p.replica.selection.digest ≠ q.replica.selection.digest

theorem Spec.digestsTellSelections_of_eq {s : Spec} {t : Selection}
    (h : ∀ p ∈ (Topology.walk s).placements, p.replica.selection = t) :
    s.DigestsTellSelections := by
  intro p hp q hq hne
  exact absurd ((h p hp).trans (h q hq).symm) hne

/-- Where digests tell selections, a deployment answers with its own selection. -/
theorem SelectionIndex.selection?_walk {s : Spec} {templates : TemplateIndex}
    (hs : s.DigestsTellSelections) {p : Placement} (hp : p ∈ (Topology.walk s).placements) :
    (ofTopology (Topology.walk s) templates).value.selection? p.replica.deployment =
      some (p.replica.selection.declaredIn templates) := by
  obtain ⟨q, hq, hfingerprint, hselection⟩ := exists_selection?_walk hp
  -- the replica that filled the entry has the digest of this one, hence its selection
  have hsame : q.replica.selection = p.replica.selection := by
    by_contra hne
    exact hs q hq p hp hne (Fingerprint.of_eq_of_iff.1 hfingerprint)
  rw [hselection, hsame]

end ShardManifest
