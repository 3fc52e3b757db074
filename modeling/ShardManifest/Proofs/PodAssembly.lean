import ShardManifest.Proofs.Mounts

/-!
# How pods are assembled

The pod of a replica takes its containers and volumes from the selected pod template, or has one
container of its own. Every container gets the same mounts behind those it has, and nothing else of
it changes; the pod gets two volumes behind those of its template. A selected claim goes into the
StatefulSet as it is declared. If it is declared without a name of its own, it gets the name of the
data volume, and the first container sees that volume at the data directory.

## Main definitions

- `TemplateLibrary.dataMounts`: what the first container gets for the sake of a claim
- `ReplicaObjects.fragmentMounts`: the mounts that every container gets
- `ReplicaObjects.furnished`: containers with all that they get
- `PodAssembled`: a pod and its claims are what the declarations of a selection come to

## Main results

- `Basis.podAssembled_replicaObjects`: what a basis makes of the declared templates
- `Installation.podAssembled_of_compile`: the pods of a compilation are so assembled
-/

namespace ShardManifest

open Kubernetes

/-! ### What declarations come to -/

/-- What the first container mounts for the sake of a claim that has no name of its own. -/
def TemplateLibrary.dataMounts (l : TemplateLibrary) (claimTemplate : Option String) :
    List VolumeMount :=
  match claimTemplate.bind l.claim? with
  | some declared =>
    if declared.ownName? = none then [.directory "clickhouse-data" "/var/lib/clickhouse"] else []
  | none => []

/-- A file of a ConfigMap at its place in the configuration directory. -/
def Kubernetes.ConfigMap.fileMount (map : ConfigMap) (filename : String) : VolumeMount :=
  .file map.metadata.name ("/etc/clickhouse-server/config.d/" ++ filename) filename

/-- The container of a pod without template, before it gets any mounts. -/
def plainContainer (deployment image : String) : Container where
  name := "chi-" ++ deployment
  image := some image
  ports := some <| [("rpc", 9000), ("interserver", 9009), ("rest", 8123)].map fun (name, number) =>
    ⟨number, none, none, some name, none⟩
  volumeMounts := none
  other := .empty

namespace ReplicaObjects

/-- The shared files in the order of their names, then the macros. -/
def fragmentMounts (r : ReplicaObjects) (common : ConfigMap) : List VolumeMount :=
  common.data.keys.map common.fileMount ++ [r.macros.fileMount "macros.xml"]

/-- Containers with the fragments mounted behind what each mounts itself. The first one gets further
mounts behind these; nothing but the mounts of a container changes. -/
def furnished (r : ReplicaObjects) (common : ConfigMap) (data : List VolumeMount)
    (containers : List Container) : List Container :=
  containers.mapIdx fun index c =>
    { c with volumeMounts := some (c.volumeMounts.getD [] ++ r.fragmentMounts common ++
        if index = 0 then data else []) }

/-- The volumes of the shared fragments and of the macros. -/
def fragmentVolumes (r : ReplicaObjects) (common : ConfigMap) : List Volume :=
  [.ofConfigMap common.metadata.name, .ofConfigMap r.macros.metadata.name]

end ReplicaObjects

/-- The pod of a replica and its claims are what the declarations of a selection come to. -/
structure PodAssembled (l : TemplateLibrary) (image : String) (common : ConfigMap)
    (kept : Selection) (r : ReplicaObjects) : Prop where
  /-- A selected pod template has containers; they are furnished in their order. -/
  templated : ∀ template, kept.podTemplate = some template →
    ∃ declared, l.pod? template = some declared ∧ declared.containers ≠ [] ∧
      r.pod.spec.containers =
        r.furnished common (l.dataMounts kept.claimTemplate) declared.containers ∧
      r.pod.spec.volumes = declared.volumes ++ r.fragmentVolumes common
  plain : kept.podTemplate = none →
    r.pod.spec.containers = r.furnished common (l.dataMounts kept.claimTemplate)
      [plainContainer r.deployment image] ∧
    r.pod.spec.volumes = r.fragmentVolumes common
  claimed : ∀ template, kept.claimTemplate = some template →
    ∃ declared, l.claim? template = some declared ∧
      r.statefulSet.spec.volumeClaimTemplates = [declared.resolved]
  unclaimed : kept.claimTemplate = none → r.statefulSet.spec.volumeClaimTemplates = []

/-! ### What a basis makes of declarations -/

namespace Basis

variable {b : Basis} {l : TemplateLibrary} {d : String}

/-- Furnishing adds the mounts of a replica to every container, and to the first one the others as
well. -/
theorem furnished_cons (b : Basis) (d : String) (data : List VolumeMount) (first : Container)
    (rest : List Container) :
    (b.replicaObjects d).furnished b.commonMap data (first :: rest) =
      (first.addMounts (b.replicaMounts d)).addMounts data ::
        rest.map (·.addMounts (b.replicaMounts d)) := by
  have hmounts : (b.replicaObjects d).fragmentMounts b.commonMap = b.replicaMounts d := rfl
  rw [ReplicaObjects.furnished, List.mapIdx_cons, hmounts, List.cons.injEq]
  constructor
  · simp [Container.addMounts]
  · apply List.ext_getElem <;> simp [Container.addMounts]

theorem claimOf_eq (hl : b.templates = (TemplateIndex.ofLibrary l).value) (d : String) :
    b.claimOf d = ((b.resolved d).claimTemplate.bind l.claim?).map ClaimDeclaration.named := by
  rw [claimOf, hl]
  cases (b.resolved d).claimTemplate with
  | none => rfl
  | some template => exact TemplateIndex.get?_claims_ofLibrary l template

/-- The claims of a replica are what the declaration of its claim template comes to. -/
theorem claims_replicaObjects (hl : b.templates = (TemplateIndex.ofLibrary l).value) (d : String) :
    (b.replicaObjects d).statefulSet.spec.volumeClaimTemplates =
      (((b.resolved d).claimTemplate.bind l.claim?).map ClaimDeclaration.resolved).toList := by
  have hclaims : (b.replicaObjects d).statefulSet.spec.volumeClaimTemplates =
      ((b.claimOf d).map NamedClaim.claim).toList := rfl
  rw [hclaims, claimOf_eq hl, Option.map_map]
  congr 2
  funext declared
  exact declared.claim_named

/-- Containers that have the mounts of a replica are furnished when the data directory is mounted
for the sake of the claim. -/
theorem furnished_of_claim (hl : b.templates = (TemplateIndex.ofLibrary l).value)
    (first : Container) (rest : List Container) :
    (b.replicaObjects d).furnished b.commonMap (l.dataMounts (b.resolved d).claimTemplate)
        (first :: rest) =
      if (b.claimOf d).any NamedClaim.usesDefault then
        mountData ((first :: rest).map (·.addMounts (b.replicaMounts d)))
      else (first :: rest).map (·.addMounts (b.replicaMounts d)) := by
  have hnothing : (first.addMounts (b.replicaMounts d)).addMounts [] =
      first.addMounts (b.replicaMounts d) := by
    simp [Container.addMounts]
  rw [furnished_cons, claimOf_eq hl, TemplateLibrary.dataMounts]
  cases (b.resolved d).claimTemplate.bind l.claim? with
  | none => simp [hnothing]
  | some declared =>
    rw [Option.map_some, Option.any_some, declared.usesDefault_named]
    by_cases hname : declared.ownName? = none
    · simp [hname, mountData, dataMount, Names.dataVolume, Names.dataDirectory]
    · simp [hname, hnothing]

/-- The containers of a replica are those that its pod starts from, furnished. -/
theorem containers_replicaObjects (hl : b.templates = (TemplateIndex.ofLibrary l).value)
    {first : Container} {rest : List Container}
    (hpod : (b.podOf d).containers = (first :: rest).map (·.addMounts (b.replicaMounts d))) :
    (b.replicaObjects d).pod.spec.containers =
      (b.replicaObjects d).furnished b.commonMap (l.dataMounts (b.resolved d).claimTemplate)
        (first :: rest) := by
  have hcontainers : (b.replicaObjects d).pod.spec.containers =
      if (b.claimOf d).any NamedClaim.usesDefault then mountData (b.podOf d).containers
      else (b.podOf d).containers := rfl
  rw [hcontainers, hpod, furnished_of_claim hl]

/-- A basis assembles a pod from the declarations that a deployment selects, unless it selects a pod
template without containers. -/
theorem podAssembled_replicaObjects (h : b.Consistent) (hd : d ∈ b.deployments)
    (hl : b.templates = (TemplateIndex.ofLibrary l).value)
    (hne : ∀ template, ¬b.SelectsEmptyPod template d) :
    PodAssembled l b.defaultImage b.commonMap (b.resolved d) (b.replicaObjects d) where
  templated := by
    intro template htemplate
    obtain ⟨content, hget⟩ := (h.indexedIn hd).pods template htemplate
    have hcontainers : content.containers ≠ [] := by
      intro hempty
      exact hne template ⟨htemplate, content, hget, hempty⟩
    have hpod : b.podOf d =
        ⟨content.containers.map (·.addMounts (b.replicaMounts d)), content.volumes⟩ := by
      rw [podOf, htemplate, Option.bind_some, hget]
      rfl
    rw [hl, TemplateIndex.get?_pods_ofLibrary] at hget
    obtain ⟨declared, hdeclared, rfl⟩ := Option.map_eq_some_iff.1 hget
    obtain ⟨first, rest, hfirst⟩ := List.exists_cons_of_ne_nil hcontainers
    have hrow : declared.containers = first :: rest := hfirst
    refine ⟨declared, hdeclared, hcontainers, ?_, ?_⟩
    · rw [hrow]
      exact containers_replicaObjects hl (by rw [hpod, hfirst])
    · rw [volumes_replicaObjects, hpod]
      rfl
  plain := by
    intro hnone
    have hpod : b.podOf d =
        ⟨[(plainContainer d b.defaultImage).addMounts (b.replicaMounts d)], []⟩ := by
      rw [podOf, hnone]
      rfl
    refine ⟨containers_replicaObjects hl (by rw [hpod]; rfl), ?_⟩
    rw [volumes_replicaObjects, hpod]
    rfl
  claimed := by
    intro template htemplate
    obtain ⟨claim, hget⟩ := (h.indexedIn hd).claims template htemplate
    rw [hl, TemplateIndex.get?_claims_ofLibrary] at hget
    obtain ⟨declared, hdeclared, -⟩ := Option.map_eq_some_iff.1 hget
    refine ⟨declared, hdeclared, ?_⟩
    rw [claims_replicaObjects hl, htemplate, Option.bind_some, hdeclared]
    rfl
  unclaimed := by
    intro hnone
    rw [claims_replicaObjects hl, hnone]
    rfl

end Basis

namespace Installation

/-- The pods of a compilation are assembled from the declared templates. Each container of a
selected template keeps all it has and gets mounts for the shared files, in the order of their
names, and for the macros; a pod without template has one container that gets the same. Volumes are
added likewise, claims are those that are declared, and for the sake of a claim without a name of
its own the first container, and no other, mounts the data volume as well. -/
theorem podAssembled_of_compile {i : Installation} {o : Options} {objects : Objects}
    (h : (i.compile o).outcome = .ok objects) :
    ∃ name common, i.metadata.name = some name ∧ objects.Grouped name ∧
      objects.configMaps.head? = some common ∧
      common.metadata.name = "chi-" ++ name ++ "-common-configd" ∧
      common.data.keys.Pairwise BytewiseLT ∧
      ∀ r ∈ objects.replicas, ∃ kept, i.spec.selectionIndex.selection? r.deployment = some kept ∧
        PodAssembled i.spec.templates o.defaultImage common kept r := by
  obtain ⟨name, hname, -, -, hne, rfl⟩ := compile_eq_ok_iff.1 h
  refine ⟨name, (i.basisNamed o name).commonMap, (Option.filter_eq_some_iff.1 hname).1,
    grouped_basisNamed i o name, rfl, rfl,
    (Dictionary.keys_pairwise _).imp bytewiseLT_iff.2, fun r hr => ?_⟩
  obtain ⟨d, hd, rfl⟩ := Basis.mem_replicas_objects.1 hr
  have hb := i.consistent_basisNamed o name
  exact ⟨_, hb.selection?_eq hd, Basis.podAssembled_replicaObjects hb hd rfl (hne d hd)⟩

theorem podAssembled_furnished :
    ∃ objects, (furnished.compile .none).outcome = .ok objects ∧
      ∃ common, objects.configMaps.head? = some common ∧ ∃ r ∈ objects.replicas,
        r.pod.spec.containers = [⟨"server", none, none, some (.directory "logs" "/logs" ::
          (r.fragmentMounts common ++ [.directory "clickhouse-data" "/var/lib/clickhouse"])),
          .empty⟩] ∧
        r.pod.spec.volumes = r.fragmentVolumes common ∧
        r.statefulSet.spec.volumeClaimTemplates = [⟨⟨"clickhouse-data", .empty⟩, .empty⟩] := by
  have hdigests := Spec.digestsTellSelections_of_eq selection_furnished
  obtain ⟨objects, hobjects⟩ := exists_compile_furnished
  obtain ⟨p, hp⟩ : ∃ p, (Topology.walk furnished.spec).at? 0 0 0 = some p := ⟨_, rfl⟩
  have hmem := Topology.mem_placements_iff_at?.2 ⟨_, _, _, hp⟩
  obtain ⟨r, hr, hd⟩ := exists_replica_of_compile hobjects hmem
  obtain ⟨_, common, -, -, hcommon, -, -, hassembled⟩ := podAssembled_of_compile hobjects
  obtain ⟨kept, hkept, hpod⟩ := hassembled r hr
  have hown := Spec.selection?_selectionIndex hdigests hmem
  rw [selection_furnished p hmem, ← hd] at hown
  obtain rfl := Option.some.inj (hkept.symm.trans hown)
  obtain ⟨declared, hdeclared, -, hcontainers, hvolumes⟩ := hpod.templated "server" rfl
  obtain ⟨claimed, hclaimed, hclaims⟩ := hpod.claimed "data" rfl
  cases hdeclared
  cases hclaimed
  refine ⟨objects, hobjects, common, hcommon, r, hr, ?_, hvolumes, hclaims⟩
  rw [hcontainers]
  rfl

end Installation

end ShardManifest
