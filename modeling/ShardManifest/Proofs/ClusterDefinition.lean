import ShardManifest.Proofs.ReplicaMacros

/-!
# The cluster definition and the objects of the replicas

The cluster definition lists every replica with the host by which the others reach it. The same
replica gets a Service, and macros that tell it where it stands. The definition goes through the
topology in its own order and the objects go through the identifiers in theirs, but they agree: each
Service is the host of one replica of the definition, and the macros of that replica name the place
where the definition has it.

## Main definitions

- `Xml.Element.hosts`: the hosts of all replicas in a tree of elements
- `Xml.Element.HasReplica`: a replica with a host stands in a shard of a cluster
- `Kubernetes.Service.host`: how replicas name the replica behind a Service

## Main results

- `Fragment.read?_remoteServers`: how the cluster definition is read
- `Fragment.hosts_serversRead`, `Fragment.hasReplica_walk_iff`: which hosts it has, and where
- `Installation.clusterDefinition_of_compile`: the definition, the Services and the macros agree
-/

namespace ShardManifest

open Kubernetes

/-! ### Looking into elements -/

namespace Xml

mutual

/-- All elements with a tag, from the outside and in the order of the document. -/
def Element.withTag (tag : String) : Element → List Element
  | .leaf t text => if t = tag then [.leaf t text] else []
  | .branch t children =>
    (if t = tag then [.branch t children] else []) ++ allWithTag tag children

/-- All elements with a tag in a row. -/
def allWithTag (tag : String) : List Element → List Element
  | [] => []
  | e :: rest => e.withTag tag ++ allWithTag tag rest

end

theorem allWithTag_eq_flatMap (tag : String) (elements : List Element) :
    allWithTag tag elements = elements.flatMap (Element.withTag tag) := by
  induction elements with
  | nil => rfl
  | cons e rest ih => rw [allWithTag, ih, List.flatMap_cons]

namespace Element

/-- The text of a leaf with a tag. -/
def text? (tag : String) : Element → Option String
  | leaf t text => if t = tag then some text else none
  | branch _ _ => none

/-- The hosts of an element, which its own children name. -/
def ownHosts (e : Element) : List String := e.children.filterMap (text? "host")

/-- The hosts of all replicas in a tree of elements. -/
def hosts (root : Element) : List String := (root.withTag "replica").flatMap ownHosts

/-- The children with a tag. -/
def childrenWithTag (e : Element) (tag : String) : List Element :=
  e.children.filter fun child => child.tag = tag

/-- A replica with a host stands in a shard of a cluster. -/
def HasReplica (root : Element) (cluster : String) (shard : Nat) (host : String) : Prop :=
  ∃ servers ∈ root.childrenWithTag "remote_servers", ∃ c ∈ servers.childrenWithTag cluster,
    ∃ s, (c.childrenWithTag "shard")[shard]? = some s ∧
      ∃ r ∈ s.childrenWithTag "replica", host ∈ r.ownHosts

theorem mem_childrenWithTag_iff {e child : Element} {tag : String} :
    child ∈ e.childrenWithTag tag ↔ child ∈ e.children ∧ child.tag = tag := by
  rw [childrenWithTag, List.mem_filter, decide_eq_true_iff]

theorem hosts_leaf (tag text : String) : (leaf tag text).hosts = [] := by
  rw [hosts, withTag]
  split <;> rfl

/-- The hosts in an element are its own, if it is a replica, and those in its children. -/
theorem hosts_eq (e : Element) :
    e.hosts = (if e.tag = "replica" then e.ownHosts else []) ++ e.children.flatMap hosts := by
  cases e with
  | leaf tag text =>
    rw [hosts_leaf]
    split <;> rfl
  | branch tag children =>
    have hchildren : (allWithTag "replica" children).flatMap ownHosts = children.flatMap hosts := by
      rw [allWithTag_eq_flatMap, List.flatMap_assoc]
      rfl
    rw [hosts, withTag, List.flatMap_append, hchildren]
    by_cases h : tag = "replica" <;> simp [h, Element.tag, Element.children]

theorem hosts_branch {tag : String} (h : tag ≠ "replica") (elements : List Element) :
    (branch tag elements).hosts = elements.flatMap hosts := by
  have hown : (if (branch tag elements).tag = "replica" then (branch tag elements).ownHosts
      else []) = [] := if_neg h
  rw [hosts_eq, hown]
  rfl

end Element

end Xml

/-! ### The cluster definition -/

namespace Fragment

open Xml

variable (a : Addressing)

theorem asRead_shardElement (depth : Nat) (s : Shard) :
    (shardElement a s).asRead depth = shardElement a s := by
  have hreplica : ∀ r, (replicaElement a r).asRead (depth + 1) = replicaElement a r := fun _ => rfl
  simp [shardElement, Element.asRead, asReadAll, asReadAll_eq_map, hreplica, Function.comp_def]

/-- A cluster has its shards for children, also if it has none and is read as a leaf. -/
theorem children_asRead_clusterElement (depth : Nat) (c : Cluster) :
    ((clusterElement a c).asRead depth).children = c.shards.map (shardElement a) := by
  rw [Element.children_asRead, clusterElement, Element.children, List.map_map]
  exact List.map_congr_left fun s _ => asRead_shardElement a (depth + 1) s

/-- The cluster definition as it is read. -/
def serversRead (t : Topology) : Element :=
  .branch "remote_servers" (t.clusters.map fun c => (clusterElement a c).asRead 2)

/-- The cluster definition of a topology with clusters is read cluster by cluster. -/
theorem read?_remoteServers {t : Topology} (h : ∀ c ∈ t.clusters, isElementName c.name = true)
    (hne : t.clusters ≠ []) :
    read? (remoteServers t a) = some (.branch "yandex" [serversRead a t]) := by
  have hspells := spells_document (List.forall_mem_singleton.2 (named_remoteServers a h))
  have hread : (Element.branch rootElement
      [.branch "remote_servers" (t.clusters.map (clusterElement a))]).asRead 0 =
        .branch "yandex" [serversRead a t] := by
    simp [Element.asRead, asReadAll, asReadAll_eq_map, hne, serversRead, rootElement,
      Function.comp_def]
  rw [hread] at hspells
  rw [remoteServers, if_neg (by simpa using hne)]
  exact read?_eq_some_iff.2 hspells

theorem ownHosts_replicaElement (r : Replica) :
    (replicaElement a r).ownHosts = [a.host r.deployment] := rfl

theorem hosts_replicaElement (r : Replica) :
    (replicaElement a r).hosts = [a.host r.deployment] := rfl

theorem hosts_shardElement (s : Shard) :
    (shardElement a s).hosts = s.replicas.map fun r => a.host r.deployment := by
  rw [shardElement, Element.hosts_branch (by decide)]
  simp [Element.hosts_leaf, List.flatMap_map, hosts_replicaElement, ← List.map_eq_flatMap]

theorem hosts_clusterElement (depth : Nat) (c : Cluster) :
    ((clusterElement a c).asRead depth).hosts =
      c.shards.flatMap fun s => s.replicas.map fun r => a.host r.deployment := by
  -- a cluster that is called like a replica has no host of its own
  have hown : ((clusterElement a c).asRead depth).ownHosts = [] := by
    rw [Element.ownHosts, children_asRead_clusterElement, List.filterMap_map]
    exact List.filterMap_eq_nil_iff.2 fun _ _ => rfl
  rw [Element.hosts_eq, hown, children_asRead_clusterElement, ite_self, List.nil_append,
    List.flatMap_map]
  simp [hosts_shardElement]

/-- The hosts of the cluster definition are those of all placements. -/
theorem hosts_serversRead (t : Topology) :
    (Element.branch "yandex" [serversRead a t]).hosts =
      t.placements.map fun p => a.host p.replica.deployment := by
  rw [Element.hosts_branch (by decide), List.flatMap_singleton, serversRead,
    Element.hosts_branch (by decide), List.flatMap_map]
  simp [hosts_clusterElement, Topology.placements, List.map_flatMap, Function.comp_def]

theorem childrenWithTag_clusterElement (depth : Nat) (c : Cluster) :
    ((clusterElement a c).asRead depth).childrenWithTag "shard" =
      c.shards.map (shardElement a) := by
  rw [Element.childrenWithTag, children_asRead_clusterElement]
  refine List.filter_eq_self.2 fun e he => ?_
  obtain ⟨s, -, rfl⟩ := List.mem_map.1 he
  rfl

theorem childrenWithTag_shardElement (s : Shard) :
    (shardElement a s).childrenWithTag "replica" = s.replicas.map (replicaElement a) := by
  have hreplicas : (s.replicas.map (replicaElement a)).filter
      (fun e => decide (e.tag = "replica")) = s.replicas.map (replicaElement a) := by
    refine List.filter_eq_self.2 fun e he => ?_
    obtain ⟨r, -, rfl⟩ := List.mem_map.1 he
    rfl
  exact hreplicas

/-- The cluster definition has a replica where the topology has it. -/
theorem hasReplica_serversRead_iff {t : Topology} {cluster host : String} {shard : Nat} :
    (Element.branch "yandex" [serversRead a t]).HasReplica cluster shard host ↔
      ∃ c ∈ t.clusters, c.name = cluster ∧ ∃ s, c.shards[shard]? = some s ∧
        ∃ r ∈ s.replicas, a.host r.deployment = host := by
  have hservers : (Element.branch "yandex" [serversRead a t]).childrenWithTag "remote_servers" =
      [serversRead a t] := rfl
  have hcluster : ∀ e, e ∈ (serversRead a t).childrenWithTag cluster ↔
      ∃ c ∈ t.clusters, c.name = cluster ∧ (clusterElement a c).asRead 2 = e := by
    intro e
    rw [Element.mem_childrenWithTag_iff, serversRead, Element.children, List.mem_map]
    constructor
    · rintro ⟨⟨c, hc, rfl⟩, htag⟩
      rw [Element.tag_asRead] at htag
      exact ⟨c, hc, htag, rfl⟩
    · rintro ⟨c, hc, hname, rfl⟩
      rw [Element.tag_asRead]
      exact ⟨⟨c, hc, rfl⟩, hname⟩
  rw [Element.HasReplica, hservers]
  simp only [List.mem_singleton, exists_eq_left, hcluster]
  constructor
  · rintro ⟨_, ⟨c, hc, hname, rfl⟩, e, he, r, hr, hhost⟩
    rw [childrenWithTag_clusterElement, List.getElem?_map] at he
    obtain ⟨s, hs, rfl⟩ := Option.map_eq_some_iff.1 he
    rw [childrenWithTag_shardElement] at hr
    obtain ⟨replica, hreplica, rfl⟩ := List.mem_map.1 hr
    rw [ownHosts_replicaElement, List.mem_singleton] at hhost
    exact ⟨c, hc, hname, s, hs, replica, hreplica, hhost.symm⟩
  · rintro ⟨c, hc, hname, s, hs, replica, hreplica, rfl⟩
    refine ⟨_, ⟨c, hc, hname, rfl⟩, shardElement a s, ?_, replicaElement a replica, ?_, ?_⟩
    · rw [childrenWithTag_clusterElement, List.getElem?_map, hs]
      rfl
    · rw [childrenWithTag_shardElement]
      exact List.mem_map_of_mem hreplica
    · rw [ownHosts_replicaElement]
      exact List.mem_singleton_self _

end Fragment

/-- The replicas of a walk as its cluster definition has them. -/
theorem Fragment.hasReplica_walk_iff (a : Addressing) {s : Spec} {cluster host : String}
    {shard : Nat} :
    (Xml.Element.branch "yandex" [serversRead a (Topology.walk s)]).HasReplica cluster shard host ↔
      ∃ p ∈ (Topology.walk s).placements, p.cluster.name = cluster ∧ p.shard.index = shard ∧
        a.host p.replica.deployment = host := by
  rw [hasReplica_serversRead_iff]
  constructor
  · rintro ⟨c, hc, hname, sh, hsh, r, hr, hhost⟩
    obtain ⟨i, hi⟩ := List.mem_iff_getElem?.1 hc
    obtain ⟨k, hk⟩ := List.mem_iff_getElem?.1 hr
    have hat : (Topology.walk s).at? i shard k = some ⟨c, sh, r⟩ :=
      Topology.at?_eq_some_iff.2 ⟨hi, hsh, hk⟩
    obtain ⟨_, -, -, hindex⟩ := Topology.place_of_at?_walk hat
    exact ⟨_, Topology.mem_placements_iff_at?.2 ⟨_, _, _, hat⟩, hname, hindex, hhost⟩
  · rintro ⟨p, hp, hname, rfl, hhost⟩
    obtain ⟨i, j, k, hat⟩ := Topology.mem_placements_iff_at?.1 hp
    obtain ⟨_, -, -, hindex⟩ := Topology.place_of_at?_walk hat
    obtain ⟨hc, hsh, hr⟩ := Topology.at?_eq_some_iff.1 hat
    exact ⟨p.cluster, List.mem_of_getElem? hc, hname, p.shard, hindex ▸ hsh, p.replica,
      List.mem_of_getElem? hr, hhost⟩

/-! ### Agreement -/

/-- How replicas name the replica behind a Service. -/
def Kubernetes.Service.host (qualified : Bool) (s : Service) : String :=
  if qualified then s.metadata.name ++ "." ++ s.metadata.inNamespace ++ ".svc.cluster.local"
  else s.metadata.name

theorem Addressing.host_injective (a : Addressing) {d d' : String} (h : a.host d = a.host d') :
    d = d' := by
  cases a with
  | service => exact (String.append_right_inj _).1 h
  | qualified inNamespace =>
    exact (String.append_right_inj _).1 ((String.append_left_inj _).1 h)

theorem Basis.host_replicaService (b : Basis) (s : Spec) (d : String) :
    (b.replicaService d).value.host s.defaults.qualifiedHosts =
      (Bundle.addressing b.inNamespace s).host d := by
  rw [Bundle.addressing]
  cases s.defaults.qualifiedHosts with
  | false => rfl
  | true =>
    change Names.replicaService d ++ "." ++ b.inNamespace ++ ".svc.cluster.local" =
      Names.replicaService d ++ ("." ++ b.inNamespace ++ ".svc.cluster.local")
    simp only [String.append_assoc]

theorem Basis.get?_commonMap_remoteServers {installation inNamespace image : String} {s : Spec}
    (h : s.configuration.clusters ≠ []) :
    (derived installation inNamespace image s).commonMap.data.get? "remote_servers.xml" =
      some (Fragment.remoteServers (Topology.walk s) (Bundle.addressing inNamespace s)) := by
  have hne : (Topology.walk s).clusters ≠ [] := by simpa [Topology.walk] using h
  have hmem : (File.remoteServers,
      Fragment.remoteServers (Topology.walk s) (Bundle.addressing inNamespace s)) ∈
        Bundle.fragments installation inNamespace s (Topology.walk s) := List.mem_cons_self
  have hdata : (derived installation inNamespace image s).commonMap.data =
      (Bundle.compose installation inNamespace s (Topology.walk s)).value.files := rfl
  have hget := Bundle.get?_files_compose hmem fun hempty =>
    hne (Fragment.remoteServers_eq_empty_iff.1 hempty)
  rw [hdata]
  exact hget

namespace Installation

/-- The cluster definition, the Services and the macros of a compilation with clusters agree. The
hosts of the replicas in the definition are the Services of the replicas, each once, under their
fully qualified names if these are asked for. The macros of a replica name the cluster and the
position of the shard where the definition has its host, and nothing but that place, the
installation and the replica. -/
theorem clusterDefinition_of_compile {i : Installation} {o : Options} {objects : Objects}
    (h : (i.compile o).outcome = .ok objects) (hclusters : i.spec.configuration.clusters ≠ []) :
    ∃ name common content root, i.metadata.name = some name ∧ objects.Grouped name ∧
      objects.configMaps.head? = some common ∧
      common.metadata.name = "chi-" ++ name ++ "-common-configd" ∧
      common.data.get? "remote_servers.xml" = some content ∧ Xml.read? content = some root ∧
      root.hosts.Perm (objects.services.tail.map (Service.host i.spec.defaults.qualifiedHosts)) ∧
      ∀ cluster shard host, root.HasReplica cluster shard host →
        (∃ r ∈ objects.replicas, r.service.host i.spec.defaults.qualifiedHosts = host) ∧
        ∀ r ∈ objects.replicas, r.service.host i.spec.defaults.qualifiedHosts = host →
          ∃ macros, r.macros.data.get? "macros.xml" = some macros ∧
            Xml.read? macros = some (.branch "yandex" [.branch "macros"
              [.leaf "installation" name, .leaf (cluster ++ "-shard") (toString shard),
                .leaf "replica" r.deployment]]) := by
  obtain ⟨_, -, hvalid, -⟩ := compile_eq_ok_iff.1 h
  obtain ⟨name, hname, hgrouped, hmacros⟩ := read?_macros_of_compile h
  obtain ⟨_, hname', hobjects⟩ := objects_of_compile h
  obtain rfl := Option.some.inj (hname.symm.trans hname')
  have hread := Fragment.read?_remoteServers
    (Bundle.addressing (i.targetNamespace o) i.spec) (t := Topology.walk i.spec)
    (fun _ => Topology.isElementName_of_mem_clusters hvalid)
    (by simpa [Topology.walk] using hclusters)
  -- the host of a replica is told by its identifier, in the definition and by its Service
  have hhost : ∀ r ∈ objects.replicas, r.service.host i.spec.defaults.qualifiedHosts =
      (Bundle.addressing (i.targetNamespace o) i.spec).host r.deployment := by
    intro r hr
    rw [hobjects] at hr
    obtain ⟨d, -, rfl⟩ := Basis.mem_replicas_objects.1 hr
    exact Basis.host_replicaService (i.basisNamed o name) i.spec d
  refine ⟨name, (i.basisNamed o name).commonMap, _, _, hname, hgrouped, by rw [hobjects]; rfl, rfl,
    Basis.get?_commonMap_remoteServers hclusters, hread, ?hosts, ?places⟩
  case hosts =>
    rw [Fragment.hosts_serversRead, ← hgrouped.services, List.map_map]
    have hservices : objects.replicas.map
        (Service.host i.spec.defaults.qualifiedHosts ∘ fun r => r.service) =
          objects.deployments.map (Bundle.addressing (i.targetNamespace o) i.spec).host := by
      rw [← hgrouped.deployments, List.map_map]
      exact List.map_congr_left hhost
    rw [hservices, deployments_of_compile h]
    have hperm := (Topology.deployments_perm (Topology.walk i.spec)).symm.map
      (Bundle.addressing (i.targetNamespace o) i.spec).host
    rwa [List.map_map] at hperm
  case places =>
    intro cluster shard host hreplica
    obtain ⟨p, hp, rfl, rfl, rfl⟩ := (Fragment.hasReplica_walk_iff _).1 hreplica
    constructor
    · obtain ⟨r, hr, hd⟩ := exists_replica_of_compile h hp
      exact ⟨r, hr, by rw [hhost r hr, hd]⟩
    · intro r hr hsame
      rw [hhost r hr] at hsame
      obtain ⟨q, hq, hd, macros, hcontent, hroot⟩ := hmacros r hr
      have hqp : q = p :=
        Topology.eq_of_deployment_eq hq hp (hd.trans (Addressing.host_injective _ hsame))
      subst hqp
      exact ⟨macros, hcontent, hroot⟩

theorem clusterDefinition_pair :
    Spec.pair.configuration.clusters ≠ [] ∧
    ∃ objects, ((named "demo" Spec.pair).compile .none).outcome = .ok objects ∧
      ∃ common content root, objects.configMaps.head? = some common ∧
        common.data.get? "remote_servers.xml" = some content ∧ Xml.read? content = some root ∧
        ∃ r ∈ objects.replicas, "chi-service-" ++ r.deployment ∈ root.hosts := by
  have hclusters : Spec.pair.configuration.clusters ≠ [] := by decide
  obtain ⟨objects, hobjects⟩ := exists_compile_pair
  obtain ⟨p, hp⟩ : ∃ p, (Topology.walk Spec.pair).at? 0 0 1 = some p := ⟨_, rfl⟩
  obtain ⟨r, hr, -⟩ :=
    exists_replica_of_compile hobjects (Topology.mem_placements_iff_at?.2 ⟨_, _, _, hp⟩)
  obtain ⟨_, common, content, root, -, hgrouped, hcommon, -, hcontent, hroot, hhosts, -⟩ :=
    clusterDefinition_of_compile hobjects hclusters
  refine ⟨hclusters, objects, hobjects, common, content, root, hcommon, hcontent, hroot, r, hr,
    hhosts.mem_iff.2 ?_⟩
  rw [← hgrouped.services, ← hgrouped.service_name r hr]
  exact List.mem_map_of_mem (List.mem_map_of_mem hr)

end Installation

end ShardManifest
