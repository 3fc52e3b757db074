import ShardManifest.Proofs.BundleFiles
import ShardManifest.Proofs.ReplicaObjects
import ShardManifest.Proofs.SharedSelections

/-!
# What containers see

A mount names a volume of its pod, the volume names a ConfigMap, and the ConfigMap has to hold the
file. The three are written in different places. The mounts that a compilation adds to the
containers of a pod show each generated file once, and nothing else but the data directory.

## Main definitions

- `VolumeMount.Shows`: a mount shows a file of a ConfigMap, through a volume of its pod
- `MountsGenerated`: mounts show what is generated for a replica
- `TemplateLibrary.ownMounts`: the mounts that containers have of their own

## Main results

- `Basis.mountsGenerated`, `Basis.mountsGenerated_data`: mounts that a basis adds show what it
  generates
- `Basis.forall₂_containers_replicaSet`: each container of a pod keeps its own mounts and gets these
- `Installation.mounts_of_compile`: the containers of a compilation see what is generated
-/

namespace ShardManifest

open Kubernetes

/-- A volume that is backed by a ConfigMap. -/
def Kubernetes.Volume.BackedBy (v : Volume) (map : ConfigMap) : Prop :=
  v.configMap.map (·.name) = some map.metadata.name

/-- A mount shows a file of a ConfigMap in the configuration directory, through a volume of its
pod. -/
structure Kubernetes.VolumeMount.Shows (m : VolumeMount) (pod : PodTemplate) (map : ConfigMap)
    (filename : String) : Prop where
  mountPath : m.mountPath = "/etc/clickhouse-server/config.d/" ++ filename
  subPath : m.subPath = some filename
  volume : ∃ v ∈ pod.spec.volumes, v.name = m.name ∧ v.BackedBy map
  file : filename ∈ map.data.keys

/-- Mounts of a replica's container show each file of the shared ConfigMap and the macros of the
replica, at different places, and nothing else but a claim of the replica at the data directory. -/
structure MountsGenerated (common : ConfigMap) (r : ReplicaObjects) (added : List VolumeMount) :
    Prop where
  shared : ∀ filename ∈ common.data.keys, ∃ m ∈ added, m.Shows r.pod common filename
  macros : ∃ m ∈ added, m.Shows r.pod r.macros "macros.xml"
  files : ∀ m ∈ added, m.subPath ≠ none →
    ∃ filename, m.Shows r.pod common filename ∨ m.Shows r.pod r.macros filename
  data : ∀ m ∈ added, m.subPath = none → m.mountPath = "/var/lib/clickhouse" ∧
    ∃ claim, r.statefulSet.spec.volumeClaimTemplates = [claim] ∧ claim.metadata.name = m.name
  places : (added.map (·.mountPath)).Nodup

/-- The mounts that the containers of a pod have of their own: those that the pod template declares,
and none in the one container of a pod without template. -/
def TemplateLibrary.ownMounts (l : TemplateLibrary) (podTemplate : Option String) :
    List (List VolumeMount) :=
  match podTemplate.bind l.pod? with
  | some declared => declared.containers.map fun c => c.volumeMounts.getD []
  | none => [[]]

/-! ### Places -/

namespace Names

theorem configPath_injective : Function.Injective configPath := by
  intro f g h
  exact (String.append_right_inj _).1 h

theorem configPath_ne_dataDirectory (filename : String) :
    configPath filename ≠ dataDirectory := by
  intro h
  have hlength : ("/etc/clickhouse-server/config.d/" ++ filename).length =
      "/var/lib/clickhouse".length := congrArg String.length h
  -- the directory of the configuration alone is longer
  have hlong : "/var/lib/clickhouse".length < "/etc/clickhouse-server/config.d/".length := by
    decide
  rw [String.length_append] at hlength
  omega

end Names

namespace Basis

variable {b : Basis} {d : String}

/-- The mounts that a basis adds to every container of a replica. -/
def replicaMounts (b : Basis) (d : String) : List VolumeMount :=
  b.mounts (Names.macrosConfigMap b.installation d)

theorem map_mountPath_replicaMounts (b : Basis) (d : String) :
    (b.replicaMounts d).map (·.mountPath) =
      (b.shared.files.keys ++ [File.macros]).map Names.configPath := by
  rw [replicaMounts, mounts, List.map_append, List.map_append, List.map_map]
  rfl

theorem nodup_places_replicaMounts (hmacros : File.macros ∉ b.shared.files.keys) (d : String) :
    ((b.replicaMounts d).map (·.mountPath)).Nodup := by
  have hkeys : b.shared.files.keys.Nodup := (Dictionary.keys_pairwise _).imp String.ne_of_lt
  have hfiles : (b.shared.files.keys ++ [File.macros]).Nodup := by
    rw [← List.concat_eq_append, List.nodup_concat]
    exact ⟨hmacros, hkeys⟩
  rw [map_mountPath_replicaMounts]
  exact hfiles.map Names.configPath_injective

theorem dataDirectory_not_mem_places (b : Basis) (d : String) :
    Names.dataDirectory ∉ (b.replicaMounts d).map (·.mountPath) := by
  rw [map_mountPath_replicaMounts, List.mem_map]
  rintro ⟨filename, -, h⟩
  exact Names.configPath_ne_dataDirectory filename h

/-! ### What the added mounts show -/

theorem volumes_replicaObjects (b : Basis) (d : String) :
    (b.replicaObjects d).pod.spec.volumes = (b.podOf d).volumes ++
      [.ofConfigMap b.commonConfigMapName,
        .ofConfigMap (Names.macrosConfigMap b.installation d)] := rfl

theorem shows_common {filename : String} (h : filename ∈ b.shared.files.keys) :
    (fileMount b.commonConfigMapName filename).Shows (b.replicaObjects d).pod b.commonMap
      filename where
  mountPath := rfl
  subPath := rfl
  volume := ⟨.ofConfigMap b.commonConfigMapName, by simp [volumes_replicaObjects], rfl, rfl⟩
  file := h

theorem shows_macros (b : Basis) (d : String) :
    (fileMount (Names.macrosConfigMap b.installation d) File.macros).Shows (b.replicaObjects d).pod
      (b.replicaObjects d).macros File.macros where
  mountPath := rfl
  subPath := rfl
  volume := ⟨.ofConfigMap (Names.macrosConfigMap b.installation d),
    by simp [volumes_replicaObjects], rfl, rfl⟩
  file := List.mem_singleton_self _

theorem shows_of_mem_replicaMounts {m : VolumeMount} (h : m ∈ b.replicaMounts d) :
    ∃ filename, m.Shows (b.replicaObjects d).pod b.commonMap filename ∨
      m.Shows (b.replicaObjects d).pod (b.replicaObjects d).macros filename := by
  rcases List.mem_append.1 h with h | h
  · obtain ⟨filename, hfilename, rfl⟩ := List.mem_map.1 h
    exact ⟨filename, .inl (shows_common hfilename)⟩
  · rw [List.mem_singleton.1 h]
    exact ⟨File.macros, .inr (shows_macros b d)⟩

theorem subPath_of_mem_replicaMounts {m : VolumeMount} (h : m ∈ b.replicaMounts d) :
    m.subPath ≠ none := by
  obtain ⟨filename, hshows | hshows⟩ := shows_of_mem_replicaMounts h <;>
    simp [hshows.subPath]

/-- The mounts that every container gets show what a basis generates. -/
theorem mountsGenerated (hmacros : File.macros ∉ b.shared.files.keys) (d : String) :
    MountsGenerated b.commonMap (b.replicaObjects d) (b.replicaMounts d) where
  shared _ h := ⟨_, List.mem_append_left _ (List.mem_map_of_mem h), shows_common h⟩
  macros := ⟨_, List.mem_append_right _ (List.mem_singleton_self _), shows_macros b d⟩
  files _ hm _ := shows_of_mem_replicaMounts hm
  data _ hm hnone := absurd hnone (subPath_of_mem_replicaMounts hm)
  places := nodup_places_replicaMounts hmacros d

/-- A claim that goes without a name of its own is there for the data directory. -/
theorem exists_claim_of_usesDefault (h : (b.claimOf d).any NamedClaim.usesDefault = true) :
    ∃ claim, (b.replicaObjects d).statefulSet.spec.volumeClaimTemplates = [claim] ∧
      claim.metadata.name = dataMount.name := by
  have hclaims : (b.replicaObjects d).statefulSet.spec.volumeClaimTemplates =
      ((b.claimOf d).map NamedClaim.claim).toList := rfl
  cases hclaim : b.claimOf d with
  | none => simp [hclaim] at h
  | some named =>
    rw [hclaim] at h
    have hdefault : named.claimName = .useDefault := of_decide_eq_true h
    exact ⟨named.claim, by rw [hclaims, hclaim]; rfl, congrArg ClaimName.volume hdefault⟩

/-- With the data directory behind them the mounts still show what a basis generates. -/
theorem mountsGenerated_data (hmacros : File.macros ∉ b.shared.files.keys)
    (hdefault : (b.claimOf d).any NamedClaim.usesDefault = true) :
    MountsGenerated b.commonMap (b.replicaObjects d) (b.replicaMounts d ++ [dataMount]) := by
  have hfiles := mountsGenerated hmacros d
  constructor
  case shared =>
    intro filename h
    obtain ⟨m, hm, hshows⟩ := hfiles.shared filename h
    exact ⟨m, List.mem_append_left _ hm, hshows⟩
  case macros =>
    obtain ⟨m, hm, hshows⟩ := hfiles.macros
    exact ⟨m, List.mem_append_left _ hm, hshows⟩
  case files =>
    intro m hm hsubPath
    rcases List.mem_append.1 hm with hm | hm
    · exact shows_of_mem_replicaMounts hm
    · rw [List.mem_singleton.1 hm] at hsubPath
      exact absurd rfl hsubPath
  case data =>
    intro m hm hnone
    rcases List.mem_append.1 hm with hm | hm
    · exact absurd hnone (subPath_of_mem_replicaMounts hm)
    · rw [List.mem_singleton.1 hm]
      exact ⟨rfl, exists_claim_of_usesDefault hdefault⟩
  case places =>
    rw [List.map_append, List.map_singleton, ← List.concat_eq_append, List.nodup_concat]
    exact ⟨dataDirectory_not_mem_places b d, hfiles.places⟩

/-! ### What each container gets -/

theorem forall₂_mountData {α : Type} {R S : α → Container → Prop} {l : List α}
    {containers : List Container} (h : List.Forall₂ R l containers)
    (first : ∀ a c, R a c → S a (c.addMounts [dataMount])) (rest : ∀ a c, R a c → S a c) :
    List.Forall₂ S l (mountData containers) := by
  cases h with
  | nil => exact .nil
  | cons hfirst hrest => exact .cons (first _ _ hfirst) (hrest.imp rest)

/-- The containers that a pod starts from have the mounts of their own, and those of the replica
behind them. -/
theorem forall₂_containers_podOf {l : TemplateLibrary}
    (hl : b.templates = (TemplateIndex.ofLibrary l).value) (d : String) :
    List.Forall₂ (fun own c => c.volumeMounts = some (own ++ b.replicaMounts d))
      (l.ownMounts (b.resolved d).podTemplate) (b.podOf d).containers := by
  have hindex : b.templates.pods.get? = fun name => (l.pod? name).map PodDeclaration.content := by
    funext name
    rw [hl, TemplateIndex.get?_pods_ofLibrary]
  have hpod : (b.resolved d).podTemplate.bind b.templates.pods.get? =
      ((b.resolved d).podTemplate.bind l.pod?).map PodDeclaration.content := by
    rw [hindex, Option.map_bind]
    rfl
  rw [podOf, TemplateLibrary.ownMounts, hpod]
  cases (b.resolved d).podTemplate.bind l.pod? with
  | none => exact .cons rfl .nil
  | some declared =>
    simp only [Option.map_some]
    rw [List.forall₂_map_left_iff, PodDeclaration.content, List.forall₂_map_right_iff]
    exact List.forall₂_same.2 fun _ _ => rfl

/-- Each container of a replica keeps the mounts of its own and gets mounts that show what a basis
generates. -/
theorem forall₂_containers_replicaSet {l : TemplateLibrary}
    (hl : b.templates = (TemplateIndex.ofLibrary l).value)
    (hmacros : File.macros ∉ b.shared.files.keys) (d : String) :
    List.Forall₂ (fun own c => ∃ added, c.volumeMounts = some (own ++ added) ∧
        MountsGenerated b.commonMap (b.replicaObjects d) added)
      (l.ownMounts (b.resolved d).podTemplate) (b.replicaObjects d).pod.spec.containers := by
  have hpod := forall₂_containers_podOf hl d
  have hcontainers : (b.replicaObjects d).pod.spec.containers =
      if (b.claimOf d).any NamedClaim.usesDefault then mountData (b.podOf d).containers
      else (b.podOf d).containers := rfl
  rw [hcontainers]
  split
  next hdefault =>
    refine forall₂_mountData hpod ?first ?rest
    case first =>
      intro own c hc
      refine ⟨_, ?_, mountsGenerated_data hmacros hdefault⟩
      simp [Container.addMounts, hc]
    case rest =>
      intro own c hc
      exact ⟨_, hc, mountsGenerated hmacros d⟩
  next =>
    refine hpod.imp ?_
    intro own c hc
    exact ⟨_, hc, mountsGenerated hmacros d⟩

end Basis

namespace Installation

/-- The containers of a compilation see what is generated. Whatever templates are selected, each
container of a replica keeps the mounts of its own, and the mounts behind them show each shared
file, the macros of the replica and nothing else that a ConfigMap holds. If no pod template is
selected there is one container, and no place in it is mounted twice. -/
theorem mounts_of_compile {i : Installation} {o : Options} {objects : Objects}
    (h : (i.compile o).outcome = .ok objects) :
    ∃ name common, objects.Grouped name ∧ objects.configMaps.head? = some common ∧
      common.metadata.name = "chi-" ++ name ++ "-common-configd" ∧
      ∀ r ∈ objects.replicas, ∃ kept, i.spec.selectionIndex.selection? r.deployment = some kept ∧
        List.Forall₂ (fun own c => ∃ added, c.volumeMounts = some (own ++ added) ∧
            MountsGenerated common r added)
          (i.spec.templates.ownMounts kept.podTemplate) r.pod.spec.containers ∧
        (kept.podTemplate = none → ∃ c mounts, r.pod.spec.containers = [c] ∧
          c.volumeMounts = some mounts ∧ (mounts.map (·.mountPath)).Nodup) := by
  obtain ⟨name, -, rfl⟩ := objects_of_compile h
  refine ⟨name, _, grouped_basisNamed i o name, rfl, rfl, ?_⟩
  intro r hr
  obtain ⟨d, hd, rfl⟩ := Basis.mem_replicas_objects.1 hr
  have hkept := (i.consistent_basisNamed o name).selection?_eq hd
  have hmacros : File.macros ∉ (i.basisNamed o name).shared.files.keys := by
    rw [basisNamed, Basis.shared_derived]
    exact Bundle.macros_not_mem_keys_files_compose _ _ _ _
  have hcontainers := Basis.forall₂_containers_replicaSet (b := i.basisNamed o name)
    (l := i.spec.templates) rfl hmacros d
  refine ⟨_, hkept, hcontainers, ?_⟩
  intro hnone
  rw [hnone] at hcontainers
  obtain ⟨c, _, ⟨mounts, hmounts, hgenerated⟩, hrest, hc⟩ :=
    List.forall₂_cons_left_iff.1 hcontainers
  rw [List.forall₂_nil_left_iff.1 hrest] at hc
  exact ⟨c, mounts, hc, hmounts, hgenerated.places⟩

/-- One replica with a container that keeps its logs in a volume, and its data in a claim. -/
def furnished : Installation :=
  named "demo" { Spec.ofClusters [⟨"main", .simplest, ⟨some "server", some "data"⟩⟩] with
    templates :=
      ⟨[⟨"server", [⟨"server", none, none, some [.directory "logs" "/logs"], .empty⟩], []⟩],
        [⟨"data", ⟨.unset, .empty⟩⟩]⟩ }

theorem selection_furnished :
    ∀ p ∈ (Topology.walk furnished.spec).placements,
      p.replica.selection = ⟨some "server", some "data"⟩ := by
  decide

theorem exists_compile_furnished : ∃ objects, (furnished.compile .none).outcome = .ok objects := by
  have hdigests := Spec.digestsTellSelections_of_eq selection_furnished
  refine (exists_compile_eq_ok_iff (i := furnished) rfl rfl (by decide) hdigests).2 ?_
  rintro template d ⟨p, hp, -, htemplate, declared, hdeclared, hempty⟩
  rw [selection_furnished p hp] at htemplate
  cases htemplate
  cases hdeclared
  cases hempty

theorem mounts_furnished :
    (∃ objects, (furnished.compile .none).outcome = .ok objects ∧ ∃ r ∈ objects.replicas,
      ∃ c added, r.pod.spec.containers = [c] ∧
        c.volumeMounts = some (.directory "logs" "/logs" :: added) ∧
        ∃ m ∈ added, m.Shows r.pod r.macros "macros.xml") ∧
    ∃ objects, ((named "demo" Spec.pair).compile .none).outcome = .ok objects ∧
      ∃ r ∈ objects.replicas, ∃ c mounts, r.pod.spec.containers = [c] ∧
        c.volumeMounts = some mounts ∧ (mounts.map (·.mountPath)).Nodup := by
  constructor
  · have hdigests := Spec.digestsTellSelections_of_eq selection_furnished
    obtain ⟨objects, hobjects⟩ := exists_compile_furnished
    obtain ⟨p, hp⟩ : ∃ p, (Topology.walk furnished.spec).at? 0 0 0 = some p := ⟨_, rfl⟩
    have hmem := Topology.mem_placements_iff_at?.2 ⟨_, _, _, hp⟩
    obtain ⟨r, hr, hd⟩ := exists_replica_of_compile hobjects hmem
    obtain ⟨_, common, -, -, -, hmounts⟩ := mounts_of_compile hobjects
    obtain ⟨kept, hkept, hcontainers, -⟩ := hmounts r hr
    have hown := Spec.selection?_selectionIndex hdigests hmem
    rw [selection_furnished p hmem, ← hd] at hown
    obtain rfl := Option.some.inj (hkept.symm.trans hown)
    obtain ⟨c, _, ⟨added, hadded, hgenerated⟩, hrest, hc⟩ :=
      List.forall₂_cons_left_iff.1 hcontainers
    rw [List.forall₂_nil_left_iff.1 hrest] at hc
    exact ⟨objects, hobjects, r, hr, c, added, hc, hadded, hgenerated.macros⟩
  · obtain ⟨objects, hobjects⟩ := exists_compile_pair
    obtain ⟨p, hp⟩ : ∃ p, (Topology.walk Spec.pair).at? 0 0 1 = some p := ⟨_, rfl⟩
    have hmem := Topology.mem_placements_iff_at?.2 ⟨_, _, _, hp⟩
    obtain ⟨r, hr, hd⟩ := exists_replica_of_compile hobjects hmem
    obtain ⟨_, common, -, -, -, hmounts⟩ := mounts_of_compile hobjects
    obtain ⟨kept, hkept, -, hplain⟩ := hmounts r hr
    have hdigests := Spec.digestsTellSelections_of_eq selection_pair
    have hown := Spec.selection?_selectionIndex hdigests hmem
    rw [selection_pair p hmem, ← hd] at hown
    obtain rfl := Option.some.inj (hkept.symm.trans hown)
    exact ⟨objects, hobjects, r, hr, hplain rfl⟩

end Installation

end ShardManifest
