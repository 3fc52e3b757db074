import ShardManifest.Proofs.BundleFiles
import ShardManifest.Proofs.OutcomeAgreement
import ShardManifest.Proofs.ReplicaObjects
import ShardManifest.Proofs.SharedSelections

/-!
# What options change

Options name a namespace and an image. The namespace is written into the metadata of every object
and, if replicas are reached by fully qualified names, behind the hosts of the cluster definition.
The image is that of the container of a pod that no template describes. Nothing else of what an
installation is compiled to looks at the options.

## Main definitions

- `Xml.Element.withDomain`: an element with a domain behind the host of every replica
- `Xml.SameButDomain`: two documents that differ in such a domain only
- `Installation.Overridden`: objects as other options would have them

## Main results

- `Fragment.remoteServers_qualified`: the cluster definition under fully qualified names
- `Basis.replicaSet_overridden`: what the StatefulSet of a deployment takes from the options
- `Installation.compile_overridden`: the outcomes under any two options
-/

namespace ShardManifest

open Kubernetes

/-! ### Hosts in documents -/

namespace Xml

mutual

/-- An element inside one with the tag `parent`, with a domain behind the host of every replica. -/
def Element.withDomain (domain parent : String) : Element → Element
  | .leaf tag text =>
    .leaf tag (if parent = "replica" ∧ tag = "host" then text ++ domain else text)
  | .branch tag children => .branch tag (withDomainAll domain tag children)

/-- A row of elements inside one with the tag `parent`, with a domain behind the host of every
replica. -/
def withDomainAll (domain parent : String) : List Element → List Element
  | [] => []
  | e :: rest => e.withDomain domain parent :: withDomainAll domain parent rest

end

theorem withDomainAll_eq_map (domain parent : String) (elements : List Element) :
    withDomainAll domain parent elements = elements.map (Element.withDomain domain parent) := by
  induction elements with
  | nil => rfl
  | cons e rest ih => rw [withDomainAll, ih, List.map_cons]

/-- Two texts are documents of one row of elements, with one domain or the other behind the host of
every replica. -/
def SameButDomain (domain domain' content content' : String) : Prop :=
  ∃ elements, content = document (withDomainAll domain rootElement elements) ∧
    content' = document (withDomainAll domain' rootElement elements)

end Xml

namespace Fragment

open Xml

theorem withDomain_replicaElement (inNamespace : String) (r : Replica) :
    (replicaElement .service r).withDomain (Names.namespaceDomain inNamespace) "shard" =
      replicaElement (.qualified inNamespace) r := rfl

theorem withDomain_shardElement (inNamespace parent : String) (s : Shard) :
    (shardElement .service s).withDomain (Names.namespaceDomain inNamespace) parent =
      shardElement (.qualified inNamespace) s := by
  have hreplicas := List.map_congr_left fun r (_ : r ∈ s.replicas) =>
    withDomain_replicaElement inNamespace r
  simp only [shardElement, Element.withDomain, withDomainAll, withDomainAll_eq_map, List.map_map]
  exact congrArg (fun replicas => Element.branch "shard" (_ :: _ :: replicas)) hreplicas

theorem withDomain_clusterElement (inNamespace parent : String) (c : Cluster) :
    (clusterElement .service c).withDomain (Names.namespaceDomain inNamespace) parent =
      clusterElement (.qualified inNamespace) c := by
  rw [clusterElement, Element.withDomain, withDomainAll_eq_map, List.map_map, clusterElement]
  refine congrArg (Element.branch c.name) (List.map_congr_left fun s _ => ?_)
  exact withDomain_shardElement inNamespace c.name s

/-- Under fully qualified names the cluster definition is that of the bare names, with the domain of
the namespace behind every host. -/
theorem remoteServers_qualified {t : Topology} (h : t.clusters ≠ []) (inNamespace : String) :
    remoteServers t (.qualified inNamespace) =
      document (withDomainAll (Names.namespaceDomain inNamespace) rootElement
        [.branch "remote_servers" (t.clusters.map (clusterElement .service))]) := by
  have hclusters := List.map_congr_left fun c (_ : c ∈ t.clusters) =>
    withDomain_clusterElement inNamespace "remote_servers" c
  rw [remoteServers, if_neg (by simpa using h), withDomainAll, withDomainAll, Element.withDomain,
    withDomainAll_eq_map, List.map_map]
  exact congrArg (fun clusters => document [.branch "remote_servers" clusters]) hclusters.symm

end Fragment

/-! ### Objects in another namespace -/

namespace Kubernetes

def Metadata.movedTo (m : Metadata) (inNamespace : String) : Metadata := { m with inNamespace }

def Service.movedTo (s : Service) (inNamespace : String) : Service :=
  { s with metadata := s.metadata.movedTo inNamespace }

def ConfigMap.movedTo (c : ConfigMap) (inNamespace : String) : ConfigMap :=
  { c with metadata := c.metadata.movedTo inNamespace }

def StatefulSet.movedTo (s : StatefulSet) (inNamespace : String) : StatefulSet :=
  { s with metadata := s.metadata.movedTo inNamespace }

/-- A StatefulSet whose pod runs an image. -/
def StatefulSet.withImage (s : StatefulSet) (image : String) : StatefulSet :=
  let pod := s.spec.template
  let containers := pod.spec.containers.map fun c => { c with image := some image }
  { s with spec := { s.spec with template := { pod with spec := { pod.spec with containers } } } }

end Kubernetes

/-- A deployment for which no pod template is found. -/
def Spec.lacksPodTemplate (s : Spec) (deployment : String) : Bool :=
  (s.selectionIndex.selection? deployment).any fun kept => kept.podTemplate.isNone

/-- Objects as they come out under other options. All are in the other namespace. Pods that no
template describes have the other image. Under fully qualified names the hosts of the cluster
definition go on with the other namespace. -/
structure Installation.Overridden (i : Installation) (o o' : Options) (before after : Objects) :
    Prop where
  deployments : after.deployments = before.deployments
  services : after.services = before.services.map (·.movedTo (i.targetNamespace o'))
  macros : after.configMaps.tail =
    before.configMaps.tail.map (·.movedTo (i.targetNamespace o'))
  statefulSets : after.statefulSets = before.replicas.map fun r =>
    if i.spec.lacksPodTemplate r.deployment then
      (r.statefulSet.movedTo (i.targetNamespace o')).withImage o'.defaultImage
    else r.statefulSet.movedTo (i.targetNamespace o')
  shared : ∃ common data, before.configMaps.head? = some common ∧
    after.configMaps.head? = some { common.movedTo (i.targetNamespace o') with data } ∧
    data.keys = common.data.keys ∧
    ∀ file content content', common.data.get? file = some content →
      data.get? file = some content' →
      if i.spec.defaults.qualifiedHosts ∧ file = "remote_servers.xml" then
        Xml.SameButDomain ("." ++ i.targetNamespace o ++ ".svc.cluster.local")
          ("." ++ i.targetNamespace o' ++ ".svc.cluster.local") content content'
      else content' = content

namespace Bundle

variable {installation inNamespace inNamespace' file content content' : String} {s : Spec}
  {t : Topology}

theorem addressing_of_qualified (h : s.defaults.qualifiedHosts = true) (inNamespace : String) :
    addressing inNamespace s = .qualified inNamespace := by
  rw [addressing, if_pos h]

theorem addressing_of_not_qualified (h : ¬s.defaults.qualifiedHosts = true)
    (inNamespace : String) : addressing inNamespace s = .service := by
  rw [addressing, if_neg h]

/-- The fragments of other files than the cluster definition do not look at the namespace. -/
theorem mem_fragments_inNamespace (h : ¬(s.defaults.qualifiedHosts ∧ file = File.remoteServers))
    (hmem : (file, content) ∈ fragments installation inNamespace s t) (inNamespace' : String) :
    (file, content) ∈ fragments installation inNamespace' s t := by
  rcases List.mem_cons.1 hmem with heq | hmem
  · obtain ⟨rfl, rfl⟩ := Prod.mk.inj heq
    have hbare : ¬s.defaults.qualifiedHosts = true := fun hqualified => h ⟨hqualified, rfl⟩
    rw [addressing_of_not_qualified hbare, ← addressing_of_not_qualified hbare inNamespace']
    exact List.mem_cons_self
  · exact List.mem_cons_of_mem _ hmem

theorem content_remoteServers
    (h : (compose installation inNamespace s t).value.files.get? File.remoteServers =
      some content) :
    content = Fragment.remoteServers t (addressing inNamespace s) ∧ t.clusters ≠ [] := by
  obtain ⟨hmem, hne⟩ := get?_files_compose_eq_some_iff.1 h
  have heq := eq_of_mem_fragments hmem List.mem_cons_self rfl
  obtain ⟨-, rfl⟩ := Prod.mk.inj heq
  exact ⟨rfl, fun hclusters => hne (Fragment.remoteServers_eq_empty_iff.2 hclusters)⟩

/-- A shared file in two namespaces. -/
theorem sameButDomain_compose
    (h : (compose installation inNamespace s t).value.files.get? file = some content)
    (h' : (compose installation inNamespace' s t).value.files.get? file = some content') :
    if s.defaults.qualifiedHosts ∧ file = File.remoteServers then
      Xml.SameButDomain (Names.namespaceDomain inNamespace) (Names.namespaceDomain inNamespace')
        content content'
    else content' = content := by
  split
  next hservers =>
    obtain ⟨hqualified, rfl⟩ := hservers
    obtain ⟨rfl, hclusters⟩ := content_remoteServers h
    obtain ⟨rfl, -⟩ := content_remoteServers h'
    rw [addressing_of_qualified hqualified, addressing_of_qualified hqualified]
    exact ⟨_, Fragment.remoteServers_qualified hclusters _,
      Fragment.remoteServers_qualified hclusters _⟩
  next hother =>
    obtain ⟨hmem, -⟩ := get?_files_compose_eq_some_iff.1 h
    obtain ⟨hmem', -⟩ := get?_files_compose_eq_some_iff.1 h'
    have hsame := mem_fragments_inNamespace hother hmem inNamespace'
    exact congrArg Prod.snd (eq_of_mem_fragments hmem' hsame rfl)

end Bundle

namespace Basis

/-- A basis in another namespace, with another image and other shared files. -/
def overridden (b : Basis) (inNamespace defaultImage : String) (shared : Bundle) : Basis :=
  { b with inNamespace, defaultImage, shared }

variable {b : Basis} {inNamespace image d : String} {shared : Bundle}

theorem selectsAlike_overridden (b : Basis) (inNamespace image : String) (shared : Bundle) :
    b.SelectsAlike (b.overridden inNamespace image shared) := ⟨rfl, rfl, rfl⟩

theorem mounts_overridden (h : shared.files.keys = b.shared.files.keys) :
    (b.overridden inNamespace image shared).mounts = b.mounts := by
  funext macrosConfigMap
  change shared.files.keys.map _ ++ _ = b.shared.files.keys.map _ ++ _
  rw [h]
  rfl

theorem assemble_overridden (content : PodContent) (claim : Option NamedClaim) :
    (b.overridden inNamespace image shared).assemble d content claim =
      (b.assemble d content claim).movedTo inNamespace := rfl

/-- A pod whose template is found does not look at the options. -/
theorem podOf_overridden (hkeys : shared.files.keys = b.shared.files.keys) {template : String}
    {content : PodContent} (hpod : (b.resolved d).podTemplate = some template)
    (hcontent : b.templates.pods.get? template = some content) :
    (b.overridden inNamespace image shared).podOf d = b.podOf d := by
  have hresolved : (b.overridden inNamespace image shared).resolved d = b.resolved d := rfl
  have htemplates : (b.overridden inNamespace image shared).templates = b.templates := rfl
  have hinstallation : (b.overridden inNamespace image shared).installation = b.installation := rfl
  simp only [podOf, hresolved, htemplates, hinstallation, mounts_overridden hkeys, hpod, hcontent,
    Option.bind_some]

/-- A pod whose one container is the default one takes the image of that container from the
options. -/
theorem assemble_withImage (name : String) (mounts : List VolumeMount)
    (claim : Option NamedClaim) :
    (b.overridden inNamespace image shared).assemble d
        ⟨[(b.overridden inNamespace image shared).defaultContainer name mounts], []⟩ claim =
      ((b.assemble d ⟨[b.defaultContainer name mounts], []⟩ claim).movedTo
        inNamespace).withImage image := by
  rw [assemble_overridden]
  -- the one container sees the data directory or not, which leaves its image as it is
  by_cases hdata : claim.any NamedClaim.usesDefault = true
  · simp only [assemble, hdata, if_true]
    rfl
  · simp only [assemble, hdata]
    rfl

theorem podOf_of_podTemplate_eq_none (h : (b.resolved d).podTemplate = none) :
    b.podOf d = ⟨[b.defaultContainer (Names.statefulSet d)
      (b.mounts (Names.macrosConfigMap b.installation d))], []⟩ := by
  simp only [podOf, h, Option.bind_none]

/-- The StatefulSet of a deployment takes its namespace from the options, and the image of a
container that no template describes. -/
theorem replicaSet_overridden (hb : b.Consistent) (hd : d ∈ b.deployments)
    (hkeys : shared.files.keys = b.shared.files.keys) :
    (b.overridden inNamespace image shared).replicaSet d =
      if (b.resolved d).podTemplate = none then
        ((b.replicaSet d).movedTo inNamespace).withImage image
      else (b.replicaSet d).movedTo inNamespace := by
  rw [replicaSet, replicaSet]
  cases hpod : (b.resolved d).podTemplate with
  | none =>
    have hpod' : ((b.overridden inNamespace image shared).resolved d).podTemplate = none := hpod
    rw [podOf_of_podTemplate_eq_none hpod, podOf_of_podTemplate_eq_none hpod',
      mounts_overridden hkeys, if_pos rfl]
    exact assemble_withImage _ _ _
  | some template =>
    obtain ⟨content, hcontent⟩ := (hb.indexedIn hd).pods template hpod
    rw [podOf_overridden hkeys hpod hcontent, if_neg (Option.some_ne_none template)]
    exact assemble_overridden _ _

theorem services_overridden (b : Basis) (inNamespace image : String) (shared : Bundle) :
    (b.overridden inNamespace image shared).services.value =
      b.services.value.map (·.movedTo inNamespace) := by
  rw [value_services, value_services, List.map_cons, List.map_map]
  rfl

end Basis

/-! ### Compilations -/

namespace Installation

variable {i : Installation} {o o' : Options} {name d : String}

theorem basisNamed_overridden (i : Installation) (o o' : Options) (name : String) :
    i.basisNamed o' name =
      (i.basisNamed o name).overridden (i.targetNamespace o') o'.defaultImage
        (i.basisNamed o' name).shared := rfl

theorem shared_basisNamed (i : Installation) (o : Options) (name : String) :
    (i.basisNamed o name).shared =
      (Bundle.compose name (i.targetNamespace o) i.spec (Topology.walk i.spec)).value :=
  Basis.shared_derived _ _ _ _

theorem keys_shared_basisNamed (i : Installation) (o o' : Options) (name : String) :
    (i.basisNamed o' name).shared.files.keys = (i.basisNamed o name).shared.files.keys := by
  rw [shared_basisNamed, shared_basisNamed]
  exact Bundle.keys_files_compose_eq rfl Iff.rfl

/-- A deployment lacks a pod template if its resolved selection names none. -/
theorem lacksPodTemplate_iff (hd : d ∈ (i.basisNamed o name).deployments) :
    i.spec.lacksPodTemplate d = true ↔
      ((i.basisNamed o name).resolved d).podTemplate = none := by
  have hselection : i.spec.selectionIndex.selection? d =
      some ((i.basisNamed o name).resolved d) :=
    (i.consistent_basisNamed o name).selection?_eq hd
  rw [Spec.lacksPodTemplate, hselection, Option.any_some, Option.isNone_iff_eq_none]

theorem overridden_objects (i : Installation) (o o' : Options) (name : String) :
    i.Overridden o o' (i.basisNamed o name).objects (i.basisNamed o' name).objects := by
  constructor
  case deployments => rfl
  case services =>
    rw [i.basisNamed_overridden o o']
    exact Basis.services_overridden _ _ _ _
  case macros =>
    change _ = ((i.basisNamed o name).deployments.map _).map _
    rw [List.map_map]
    rfl
  case statefulSets =>
    rw [Basis.replicas_objects, List.map_map]
    refine List.map_congr_left fun d hd => ?_
    have hd' : d ∈ (i.basisNamed o name).deployments := hd
    rw [i.basisNamed_overridden o o', Basis.replicaSet_overridden
      (i.consistent_basisNamed o name) hd' (i.keys_shared_basisNamed o o' name)]
    simp only [← lacksPodTemplate_iff hd']
    rfl
  case shared =>
    refine ⟨(i.basisNamed o name).commonMap, (i.basisNamed o' name).shared.files, rfl, rfl,
      i.keys_shared_basisNamed o o' name, ?_⟩
    intro file content content' hcontent hcontent'
    rw [shared_basisNamed] at hcontent'
    change (i.basisNamed o name).shared.files.get? file = some content at hcontent
    rw [shared_basisNamed] at hcontent
    exact Bundle.sameButDomain_compose hcontent hcontent'

/-- What options change. Under any two options an installation has the same outcome. Where objects
come out they differ in their namespaces, in the image of the pods that no template describes, and
in the namespace in the fully qualified hosts of the cluster definition. -/
theorem compile_overridden (i : Installation) (o o' : Options) :
    OutcomesAgree (i.Overridden o o') (i.compile o).outcome (i.compile o').outcome := by
  refine outcomesAgree_of_selectsAlike rfl rfl rfl ?alike ?objects
  case alike =>
    intro name
    rw [i.basisNamed_overridden o o']
    exact Basis.selectsAlike_overridden _ _ _ _
  case objects =>
    intro name _
    exact i.overridden_objects o o' name

end Installation

end ShardManifest
