import ShardManifest.Proofs.ReplicaObjects

/-!
# Names of ConfigMaps

The name of a ConfigMap holds the name of its installation, which is free text and may imitate
everything that stands around it. Still the name tells the installation, and what the ConfigMap is
for. The reason is at the end: behind its last three hyphens an identifier has numerals only, so it
can be read off the end of the name, and the name of a shared ConfigMap ends in no numeral.

## Main definitions

- `IsIdentifier`: a text that identifies a replica
- `MapOwner`: what a ConfigMap belongs to
- `Objects.Owns`: the ConfigMaps of an output and what they belong to

## Main results

- `Names.configMap_eq_iff`: the name of a ConfigMap tells the installation and the owner
- `Installation.configMapNames_of_compile`: the ConfigMaps of any two compilations
-/

namespace ShardManifest

open Kubernetes

/-- A text that identifies a replica. -/
def IsIdentifier (d : String) : Prop :=
  ∃ selection cluster shard replica, d = deploymentId (.of selection) cluster shard replica

theorem Topology.isIdentifier_of_mem_deployments {s : Spec} {d : String}
    (h : d ∈ (walk s).deployments) : IsIdentifier d := by
  obtain ⟨p, hp, rfl⟩ := mem_deployments_iff.1 h
  obtain ⟨c, sh, r, hat⟩ := mem_placements_iff_at?.1 hp
  exact ⟨_, c, sh, r, deployment_of_at?_walk hat⟩

/-- What a ConfigMap belongs to: all replicas of an installation, or one. -/
inductive MapOwner
  | all
  | replica (deployment : String)

/-- The replica that owns a ConfigMap, if it is a single one, has a proper identifier. -/
def MapOwner.Identified : MapOwner → Prop
  | .all => True
  | .replica d => IsIdentifier d

/-- The ConfigMaps of an output, each with what it belongs to. -/
inductive Objects.Owns (o : Objects) : MapOwner → ConfigMap → Prop
  | all {common : ConfigMap} (h : o.configMaps.head? = some common) : Owns o .all common
  | replica {r : ReplicaObjects} (h : r ∈ o.replicas) : Owns o (.replica r.deployment) r.macros

/-! ### Reading names -/

namespace Names

/-- The name of the ConfigMap of an owner. -/
def configMap (installation : String) : MapOwner → String
  | .all => commonConfigMap installation
  | .replica d => macrosConfigMap installation d

theorem toList_commonConfigMap (installation : String) :
    (commonConfigMap installation).toList =
      ("chi-".toList ++ installation.toList ++ "-common".toList) ++ '-' :: "configd".toList := by
  simp [commonConfigMap]

theorem toList_macrosConfigMap (installation d : String) :
    (macrosConfigMap installation d).toList =
      ("chi-".toList ++ installation.toList ++ "-deploy-confd-".toList) ++ d.toList := by
  simp [macrosConfigMap]

variable {installation installation' d d' : String}

theorem commonConfigMap_inj (h : commonConfigMap installation = commonConfigMap installation') :
    installation = installation' := by
  rw [commonConfigMap, commonConfigMap, String.append_left_inj, String.append_right_inj] at h
  exact h

theorem macrosConfigMap_inj (hd : IsIdentifier d) (hd' : IsIdentifier d')
    (h : macrosConfigMap installation d = macrosConfigMap installation' d') :
    installation = installation' ∧ d = d' := by
  obtain ⟨_, _, _, _, rfl⟩ := hd
  obtain ⟨_, _, _, _, rfl⟩ := hd'
  have hlist := congrArg String.toList h
  rw [toList_macrosConfigMap, toList_macrosConfigMap] at hlist
  obtain ⟨hfront, hd⟩ := append_deploymentId_inj hlist
  have hinstallation := List.append_cancel_left (List.append_cancel_right hfront)
  exact ⟨String.toList_injective hinstallation, hd⟩

/-- An identifier ends in a numeral, and the name of a shared ConfigMap does not. -/
theorem commonConfigMap_ne_macrosConfigMap (hd : IsIdentifier d) :
    commonConfigMap installation ≠ macrosConfigMap installation' d := by
  obtain ⟨_, _, _, r, rfl⟩ := hd
  intro h
  have hlist := congrArg String.toList h
  rw [toList_commonConfigMap, toList_macrosConfigMap, append_deploymentId] at hlist
  obtain ⟨-, hend⟩ :=
    append_cons_inj_of_not_mem_right (by decide) (hyphen_not_mem_numeral r) hlist
  have hletter : 'c' ∈ (toString r).toList := hend ▸ List.mem_cons_self
  exact absurd (isDigit_of_mem_numeral hletter) (by decide)

/-- The name of a ConfigMap tells the installation and the owner. -/
theorem configMap_eq_iff {w w' : MapOwner} (hw : w.Identified) (hw' : w'.Identified) :
    configMap installation w = configMap installation' w' ↔
      installation = installation' ∧ w = w' := by
  constructor
  · intro h
    cases w with
    | all =>
      cases w' with
      | all => exact ⟨commonConfigMap_inj h, rfl⟩
      | replica d' => exact absurd h (commonConfigMap_ne_macrosConfigMap hw')
    | replica d =>
      cases w' with
      | all => exact absurd h.symm (commonConfigMap_ne_macrosConfigMap hw)
      | replica d' =>
        obtain ⟨hinstallation, rfl⟩ := macrosConfigMap_inj hw hw' h
        exact ⟨hinstallation, rfl⟩
  · rintro ⟨rfl, rfl⟩
    rfl

end Names

/-! ### The ConfigMaps of a basis -/

namespace Basis

variable {b : Basis}

theorem exists_owns {m : ConfigMap} (h : m ∈ b.objects.configMaps) :
    ∃ w, b.objects.Owns w m := by
  rcases List.mem_cons.1 h with rfl | h
  · exact ⟨_, .all rfl⟩
  · obtain ⟨d, hd, rfl⟩ := List.mem_map.1 h
    exact ⟨_, .replica (mem_replicas_objects.2 ⟨d, hd, rfl⟩)⟩

theorem name_of_owns {w : MapOwner} {m : ConfigMap} (h : b.objects.Owns w m) :
    m.metadata.name = Names.configMap b.installation w := by
  cases h with
  | all h =>
    obtain rfl := Option.some.inj h
    rfl
  | replica h =>
    obtain ⟨d, -, rfl⟩ := mem_replicas_objects.1 h
    rfl

theorem identified_of_owns (hb : ∀ d ∈ b.deployments, IsIdentifier d) {w : MapOwner}
    {m : ConfigMap} (h : b.objects.Owns w m) : w.Identified := by
  cases h with
  | all => trivial
  | replica h =>
    obtain ⟨d, hd, rfl⟩ := mem_replicas_objects.1 h
    exact hb d hd

theorem nodup_names_configMaps (hb : ∀ d ∈ b.deployments, IsIdentifier d)
    (hnodup : b.deployments.Nodup) :
    (b.objects.configMaps.map (·.metadata.name)).Nodup := by
  have hnames : b.objects.configMaps.map (·.metadata.name) =
      (.all :: b.deployments.map .replica).map (Names.configMap b.installation) := by
    simp only [objects, List.map_cons, List.map_map]
    rfl
  have howners : (MapOwner.all :: b.deployments.map .replica).Nodup := by
    rw [List.nodup_cons]
    constructor
    · intro hmem
      obtain ⟨d, -, hd⟩ := List.mem_map.1 hmem
      cases hd
    · exact hnodup.map fun d d' h => MapOwner.replica.inj h
  have hidentified : ∀ w ∈ MapOwner.all :: b.deployments.map .replica, w.Identified := by
    intro w hw
    rcases List.mem_cons.1 hw with rfl | hw
    · trivial
    · obtain ⟨d, hd, rfl⟩ := List.mem_map.1 hw
      exact hb d hd
  rw [hnames]
  refine howners.map_on fun w hw w' hw' h => ?_
  exact ((Names.configMap_eq_iff (hidentified w hw) (hidentified w' hw')).1 h).2

end Basis

/-! ### The ConfigMaps of compilations -/

namespace Installation

theorem isIdentifier_basisNamed {i : Installation} {o : Options} {name d : String}
    (h : d ∈ (i.basisNamed o name).deployments) : IsIdentifier d :=
  Topology.isIdentifier_of_mem_deployments h

/-- The ConfigMaps of any two compilations have one name only if the installations have one name
and the ConfigMaps belong to the same. So no name occurs twice in one output, and outputs of
installations with different names share none. -/
theorem configMapNames_of_compile {i i' : Installation} {o o' : Options} {a b : Objects}
    (ha : (i.compile o).outcome = .ok a) (hb : (i'.compile o').outcome = .ok b) :
    ∃ name name', i.metadata.name = some name ∧ i'.metadata.name = some name' ∧
      (∀ m ∈ a.configMaps, ∃ w, a.Owns w m) ∧ (∀ m ∈ b.configMaps, ∃ w, b.Owns w m) ∧
      (∀ w m w' m', a.Owns w m → b.Owns w' m' →
        (m.metadata.name = m'.metadata.name ↔ name = name' ∧ w = w')) ∧
      (a.configMaps.map (·.metadata.name)).Nodup ∧
      (name ≠ name' → ∀ m ∈ a.configMaps, ∀ m' ∈ b.configMaps,
        m.metadata.name ≠ m'.metadata.name) := by
  obtain ⟨name, hname, rfl⟩ := objects_of_compile ha
  obtain ⟨name', hname', rfl⟩ := objects_of_compile hb
  have htold : ∀ w m w' m', (i.basisNamed o name).objects.Owns w m →
      (i'.basisNamed o' name').objects.Owns w' m' →
      (m.metadata.name = m'.metadata.name ↔ name = name' ∧ w = w') := by
    intro w m w' m' hm hm'
    have hw := Basis.identified_of_owns (fun _ => isIdentifier_basisNamed) hm
    have hw' := Basis.identified_of_owns (fun _ => isIdentifier_basisNamed) hm'
    rw [Basis.name_of_owns hm, Basis.name_of_owns hm']
    exact Names.configMap_eq_iff hw hw'
  refine ⟨name, name', hname, hname', fun m => Basis.exists_owns, fun m => Basis.exists_owns,
    htold, ?nodup, ?apart⟩
  case nodup =>
    exact Basis.nodup_names_configMaps (fun _ => isIdentifier_basisNamed)
      (Topology.deployments_nodup i.spec)
  case apart =>
    intro hne m hm m' hm' heq
    obtain ⟨w, hw⟩ := Basis.exists_owns hm
    obtain ⟨w', hw'⟩ := Basis.exists_owns hm'
    exact hne ((htold w m w' m' hw hw').1 heq).1

/-- The name of the second installation imitates a ConfigMap of the first. -/
theorem configMapNames_imitating :
    ∃ a b, ((named "a" Spec.pair).compile .none).outcome = .ok a ∧
      ((named "a-deploy-confd-000000-0-0-0" Spec.pair).compile .none).outcome = .ok b ∧
      ∀ m ∈ a.configMaps, ∀ m' ∈ b.configMaps, m.metadata.name ≠ m'.metadata.name := by
  obtain ⟨a, ha⟩ := exists_compile_named_pair (show "a" ≠ "" by decide)
  obtain ⟨b, hb⟩ := exists_compile_named_pair (show "a-deploy-confd-000000-0-0-0" ≠ "" by decide)
  obtain ⟨name, name', hname, hname', -, -, -, -, hapart⟩ := configMapNames_of_compile ha hb
  cases hname
  cases hname'
  exact ⟨a, b, ha, hb, hapart (by decide)⟩

end Installation

end ShardManifest
