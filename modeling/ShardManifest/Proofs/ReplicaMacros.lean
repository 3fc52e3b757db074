import ShardManifest.Proofs.FragmentMarkup

/-!
# What the macros of a replica tell

The macros of a replica name its installation, the position of its shard in its cluster, and the
replica. Servers build the paths of replicated data from them. Clusters are told by their names
there, and names need not differ: two shards of one index whose clusters have one name are told
apart by nothing in the macros. Otherwise the macros tell the shard.

## Main definitions

- `Xml.Element.macros`, `ReplicaObjects.CarriesMacro`: the macros that a file of a replica defines
- `Installation.MacrosTellShards`: replicas that carry the same shard macro stand in one shard

## Main results

- `Fragment.read?_macros`: how the macros of a replica are read
- `Installation.shards_of_macros`: what a shard macro tells
- `Installation.not_macrosTellShards_twins`: clusters of one name share their macros
-/

namespace ShardManifest

/-- The macros that a document defines. -/
def Xml.Element.macros (root : Element) : List Element :=
  (root.children.filter fun e => e.tag = "macros").flatMap Element.children

/-- The file of a replica's macros defines an element. -/
def ReplicaObjects.CarriesMacro (r : ReplicaObjects) (e : Xml.Element) : Prop :=
  ∃ content root, r.macros.data.get? "macros.xml" = some content ∧
    Xml.read? content = some root ∧ e ∈ root.macros

/-- The macro that tells a replica its place in a cluster. -/
def shardMacro (cluster : String) (index : Nat) : Xml.Element :=
  .leaf (cluster ++ "-shard") (toString index)

/-- The macros of a replica that stands in one shard. -/
def Fragment.macroElements (installation deployment : String) (place : ShardPlace) :
    List Xml.Element :=
  [.leaf "installation" installation, shardMacro place.cluster place.index,
    .leaf "replica" deployment]

theorem Xml.Element.macros_branch (tag : String) (elements : List Element) :
    macros (.branch tag [.branch "macros" elements]) = elements := by
  simp [macros, children, Element.tag]

/-- The macros of a replica are read as they were written. -/
theorem Fragment.read?_macros (installation deployment : String) {place : ShardPlace}
    (h : Xml.isElementName place.cluster = true) :
    Xml.read? (macros installation deployment [place]) =
      some (.branch "yandex" [.branch "macros" (macroElements installation deployment place)]) := by
  have hmacros : Xml.Element.Named
      (.branch "macros" (macroElements installation deployment place)) := by
    refine .branch (by decide) ?_
    simp only [macroElements, List.forall_mem_cons]
    exact ⟨.leaf (by decide), .leaf (Xml.isElementName_append h (by decide)), .leaf (by decide),
      by simp⟩
  exact Xml.read?_eq_some_iff.2 (Xml.spells_document (List.forall_mem_singleton.2 hmacros))

theorem shardMacro_ne (cluster : String) (index : Nat) :
    (∀ text, shardMacro cluster index ≠ .leaf "installation" text) ∧
      ∀ text, shardMacro cluster index ≠ .leaf "replica" text := by
  constructor <;> intro text h
  · simpa using congrArg (fun s => s.toList.getLast?) (Xml.Element.leaf.inj h).1
  · simpa using congrArg (fun s => s.toList.getLast?) (Xml.Element.leaf.inj h).1

theorem shardMacro_injective {c c' : String} {j j' : Nat} (h : shardMacro c j = shardMacro c' j') :
    c = c' ∧ j = j' := by
  obtain ⟨htag, htext⟩ := Xml.Element.leaf.inj h
  exact ⟨(String.append_left_inj _).1 htag, numeral_injective htext⟩

/-- A replica has the shard macro of its own place, and no other. -/
theorem shardMacro_mem_iff {installation deployment cluster : String} {index : Nat}
    {place : ShardPlace} :
    shardMacro cluster index ∈ Fragment.macroElements installation deployment place ↔
      cluster = place.cluster ∧ index = place.index := by
  obtain ⟨hinstallation, hreplica⟩ := shardMacro_ne cluster index
  simp only [Fragment.macroElements, List.mem_cons, hinstallation, hreplica, List.not_mem_nil,
    or_false, false_or]
  constructor
  · exact shardMacro_injective
  · rintro ⟨rfl, rfl⟩
    rfl

namespace Installation

variable {i : Installation} {o : Options} {objects : Objects}

/-- The macros of each replica of a compilation, as they are read. -/
theorem read?_macros_of_compile (h : (i.compile o).outcome = .ok objects) :
    ∃ name, i.metadata.name = some name ∧ objects.Grouped name ∧ ∀ r ∈ objects.replicas,
      ∃ p ∈ (Topology.walk i.spec).placements, p.replica.deployment = r.deployment ∧
        ∃ content, r.macros.data.get? "macros.xml" = some content ∧
          Xml.read? content = some (.branch "yandex" [.branch "macros"
            (Fragment.macroElements name r.deployment ⟨p.cluster.name, p.shard.index⟩)]) := by
  obtain ⟨_, -, hvalid, -⟩ := compile_eq_ok_iff.1 h
  obtain ⟨name, hname, hgrouped, hmacros⟩ := macros_of_compile h
  refine ⟨name, hname, hgrouped, fun r hr => ?_⟩
  obtain ⟨p, hp, hd, hcontent⟩ := hmacros r hr
  have hcluster :=
    Topology.isElementName_of_mem_clusters hvalid (Topology.mem_placements_iff.1 hp).1
  exact ⟨p, hp, hd, _, hcontent, Fragment.read?_macros name r.deployment hcluster⟩

/-- A replica of a compilation carries the shard macro of its own place, and no other. -/
theorem carriesMacro_of_compile (h : (i.compile o).outcome = .ok objects) {r : ReplicaObjects}
    (hr : r ∈ objects.replicas) :
    ∃ cluster shard replica p, (Topology.walk i.spec).at? cluster shard replica = some p ∧
      p.replica.deployment = r.deployment ∧
      ∀ c j, r.CarriesMacro (shardMacro c j) ↔ c = p.cluster.name ∧ j = shard := by
  obtain ⟨name, -, -, hmacros⟩ := read?_macros_of_compile h
  obtain ⟨p, hp, hd, content, hcontent, hroot⟩ := hmacros r hr
  obtain ⟨cluster, shard, replica, hat⟩ := Topology.mem_placements_iff_at?.1 hp
  obtain ⟨_, -, -, hindex⟩ := Topology.place_of_at?_walk hat
  refine ⟨cluster, shard, replica, p, hat, hd, fun c j => ?_⟩
  rw [← hindex]
  constructor
  · rintro ⟨content', root, hcontent', hroot', hmem⟩
    obtain rfl := Option.some.inj (hcontent.symm.trans hcontent')
    obtain rfl := Option.some.inj (hroot.symm.trans hroot')
    rw [Xml.Element.macros_branch] at hmem
    exact shardMacro_mem_iff.1 hmem
  · intro hplace
    refine ⟨content, _, hcontent, hroot, ?_⟩
    rw [Xml.Element.macros_branch]
    exact shardMacro_mem_iff.2 hplace

theorem exists_carriesMacro (h : (i.compile o).outcome = .ok objects)
    {cluster shard replica : Nat} {p : Placement}
    (hp : (Topology.walk i.spec).at? cluster shard replica = some p) :
    ∃ r ∈ objects.replicas, r.deployment = p.replica.deployment ∧
      r.CarriesMacro (shardMacro p.cluster.name shard) := by
  obtain ⟨r, hr, hd⟩ :=
    exists_replica_of_compile h (Topology.mem_placements_iff_at?.2 ⟨_, _, _, hp⟩)
  obtain ⟨_, _, _, q, hq, hqd, hmacros⟩ := carriesMacro_of_compile h hr
  obtain ⟨rfl, rfl, rfl⟩ := Topology.coordinates_of_deployment_eq hp hq (hd.symm.trans hqd.symm)
  obtain rfl := Option.some.inj (hp.symm.trans hq)
  exact ⟨r, hr, hd, (hmacros _ _).2 ⟨rfl, rfl⟩⟩

/-- Replicas that carry the same shard macro stand in one shard of one cluster. -/
def MacrosTellShards (i : Installation) (o : Options) : Prop :=
  ∀ objects, (i.compile o).outcome = .ok objects →
    ∀ r ∈ objects.replicas, ∀ r' ∈ objects.replicas, ∀ c j,
      r.CarriesMacro (shardMacro c j) → r'.CarriesMacro (shardMacro c j) →
      ∃ cluster shard replica replica' p p',
        (Topology.walk i.spec).at? cluster shard replica = some p ∧
        p.replica.deployment = r.deployment ∧
        (Topology.walk i.spec).at? cluster shard replica' = some p' ∧
        p'.replica.deployment = r'.deployment

/-- Replicas that carry the same shard macro stand in shards of one index, in clusters of one
name. -/
theorem places_of_shardMacro (h : (i.compile o).outcome = .ok objects) {r r' : ReplicaObjects}
    (hr : r ∈ objects.replicas) (hr' : r' ∈ objects.replicas) {c : String} {j : Nat}
    (hc : r.CarriesMacro (shardMacro c j)) (hc' : r'.CarriesMacro (shardMacro c j)) :
    ∃ cluster cluster' replica replica' p p',
      (Topology.walk i.spec).at? cluster j replica = some p ∧
      p.replica.deployment = r.deployment ∧ p.cluster.name = c ∧
      (Topology.walk i.spec).at? cluster' j replica' = some p' ∧
      p'.replica.deployment = r'.deployment ∧ p'.cluster.name = c := by
  obtain ⟨cluster, shard, replica, p, hp, hd, hmacros⟩ := carriesMacro_of_compile h hr
  obtain ⟨cluster', shard', replica', p', hp', hd', hmacros'⟩ := carriesMacro_of_compile h hr'
  obtain ⟨rfl, rfl⟩ := (hmacros c j).1 hc
  obtain ⟨hname, rfl⟩ := (hmacros' _ _).1 hc'
  exact ⟨cluster, cluster', replica, replica', p, p', hp, hd, rfl, hp', hd', hname.symm⟩

/-- What a shard macro tells. Replicas that carry the same one stand in shards of one index, in
clusters of one name; where no two clusters have one name, they stand in one shard. -/
theorem shards_of_macros (i : Installation) (o : Options) :
    (∀ objects, (i.compile o).outcome = .ok objects →
      ∀ r ∈ objects.replicas, ∀ r' ∈ objects.replicas, ∀ c j,
        r.CarriesMacro (shardMacro c j) → r'.CarriesMacro (shardMacro c j) →
        ∃ cluster cluster' replica replica' p p',
          (Topology.walk i.spec).at? cluster j replica = some p ∧
          p.replica.deployment = r.deployment ∧ p.cluster.name = c ∧
          (Topology.walk i.spec).at? cluster' j replica' = some p' ∧
          p'.replica.deployment = r'.deployment ∧ p'.cluster.name = c) ∧
    ((i.spec.configuration.clusters.map (·.name)).Nodup → i.MacrosTellShards o) := by
  constructor
  · intro objects h r hr r' hr' c j hc hc'
    exact places_of_shardMacro h hr hr' hc hc'
  · intro hnodup objects h r hr r' hr' c j hc hc'
    obtain ⟨cluster, cluster', replica, replica', p, p', hp, hd, hname, hp', hd', hname'⟩ :=
      places_of_shardMacro h hr hr' hc hc'
    obtain ⟨declared, hdeclared, heq, -⟩ := Topology.place_of_at?_walk hp
    obtain ⟨declared', hdeclared', heq', -⟩ := Topology.place_of_at?_walk hp'
    -- one name is declared at one position only
    have hsame : cluster = cluster' := by
      refine (List.getElem?_inj ?_ hnodup).1 ?_
      · rw [List.length_map]
        exact (List.getElem?_eq_some_iff.1 hdeclared).1
      · rw [List.getElem?_map, List.getElem?_map, hdeclared, hdeclared', Option.map_some,
          Option.map_some, ← heq, ← heq', hname, hname']
    subst hsame
    exact ⟨cluster, j, replica, replica', p, p', hp, hd, hp', hd'⟩

theorem shards_of_macros_pair :
    (Spec.pair.configuration.clusters.map (·.name)).Nodup ∧
    ∃ objects, ((named "demo" Spec.pair).compile .none).outcome = .ok objects ∧
      ∃ r ∈ objects.replicas, ∃ r' ∈ objects.replicas,
        r.CarriesMacro (shardMacro "main" 0) ∧ r'.CarriesMacro (shardMacro "main" 0) ∧
        ∃ cluster shard replica replica' p p',
          (Topology.walk Spec.pair).at? cluster shard replica = some p ∧
          p.replica.deployment = r.deployment ∧
          (Topology.walk Spec.pair).at? cluster shard replica' = some p' ∧
          p'.replica.deployment = r'.deployment := by
  have hnodup : (Spec.pair.configuration.clusters.map (·.name)).Nodup := by decide
  obtain ⟨objects, hobjects⟩ := exists_compile_pair
  obtain ⟨q, hq, hname⟩ : ∃ q, (Topology.walk Spec.pair).at? 0 0 0 = some q ∧
      q.cluster.name = "main" := ⟨_, rfl, rfl⟩
  obtain ⟨q', hq', hname'⟩ : ∃ q, (Topology.walk Spec.pair).at? 0 0 1 = some q ∧
      q.cluster.name = "main" := ⟨_, rfl, rfl⟩
  obtain ⟨r, hr, -, hc⟩ := exists_carriesMacro hobjects hq
  obtain ⟨r', hr', -, hc'⟩ := exists_carriesMacro hobjects hq'
  rw [hname] at hc
  rw [hname'] at hc'
  obtain ⟨-, htell⟩ := shards_of_macros (named "demo" Spec.pair) .none
  exact ⟨hnodup, objects, hobjects, r, hr, r', hr', hc, hc',
    htell hnodup objects hobjects r hr r' hr' "main" 0 hc hc'⟩

/-- Two clusters of one name, with one replica each. -/
def twins : Installation :=
  named "demo" (.ofClusters [⟨"main", .simplest, .unset⟩, ⟨"main", .simplest, .unset⟩])

/-- Clusters of one name share their macros. -/
theorem not_macrosTellShards_twins : ¬twins.MacrosTellShards .none := by
  intro htell
  have hunset : ∀ p ∈ (Topology.walk twins.spec).placements, p.replica.selection = .unset := by
    decide
  obtain ⟨objects, hobjects⟩ :=
    exists_compile_of_unset (i := twins) (o := .none) rfl rfl (by decide) hunset
  obtain ⟨q, hq, hname⟩ : ∃ q, (Topology.walk twins.spec).at? 0 0 0 = some q ∧
      q.cluster.name = "main" := ⟨_, rfl, rfl⟩
  obtain ⟨q', hq', hname'⟩ : ∃ q, (Topology.walk twins.spec).at? 1 0 0 = some q ∧
      q.cluster.name = "main" := ⟨_, rfl, rfl⟩
  obtain ⟨r, hr, hd, hc⟩ := exists_carriesMacro hobjects hq
  obtain ⟨r', hr', hd', hc'⟩ := exists_carriesMacro hobjects hq'
  rw [hname] at hc
  rw [hname'] at hc'
  obtain ⟨cluster, shard, replica, replica', p, p', hp, hpd, hp', hpd'⟩ :=
    htell objects hobjects r hr r' hr' "main" 0 hc hc'
  -- the cluster would have to be the first one and the second one
  obtain ⟨hfirst, -, -⟩ := Topology.coordinates_of_deployment_eq hp hq (hpd.trans hd)
  obtain ⟨hsecond, -, -⟩ := Topology.coordinates_of_deployment_eq hp' hq' (hpd'.trans hd')
  omega

end Installation

end ShardManifest
