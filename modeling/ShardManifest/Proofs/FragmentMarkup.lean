import ShardManifest.Proofs.BundleFiles
import ShardManifest.Proofs.ReplicaObjects
import ShardManifest.Proofs.SettingTrees
import ShardManifest.Proofs.Xml.Reader

/-!
# Fragments are well formed

A fragment puts user text into its tags in two places only: the names of clusters, which are checked
before anything is compiled, and the segments of settings, of which the others are left out. All
other text is character data and gets escaped. So whatever an installation holds, every file that it
is compiled to is one element.

## Main definitions

- `Xml.IsDocument`: the document of a row of elements with element names for tags
- `Xml.IsFragment`: empty, or such a document

## Main results

- `Xml.IsDocument.exists_spells`: a document is a single element with the root's tag
- `Bundle.isFragment_of_mem_fragments`, `Fragment.isDocument_macros`: what is shared, and the macros
- `Installation.spells_of_compile`: every file of a compilation is a single element
-/

namespace ShardManifest

/-- The document of a row of elements with element names for tags. -/
def Xml.IsDocument (content : String) : Prop :=
  ∃ elements : List Element, (∀ e ∈ elements, e.Named) ∧ content = document elements

/-- A document is a single element with the root's tag. -/
theorem Xml.IsDocument.exists_spells {content : String} (h : IsDocument content) :
    ∃ root, root.tag = "yandex" ∧ Spells [root] content.toList := by
  obtain ⟨elements, hnamed, rfl⟩ := h
  exact ⟨_, Element.tag_asRead 0 _, spells_document hnamed⟩

/-- A fragment is empty or a document. -/
def Xml.IsFragment (content : String) : Prop := content = "" ∨ IsDocument content

theorem Xml.isFragment_ite {p : Prop} [Decidable p] {elements : List Element}
    (h : ∀ e ∈ elements, e.Named) : IsFragment (if p then "" else document elements) := by
  split
  · exact .inl rfl
  · exact .inr ⟨elements, h, rfl⟩

namespace Fragment

open Xml

theorem named_clusterElement (a : Addressing) {c : Cluster} (h : isElementName c.name = true) :
    (clusterElement a c).Named := by
  refine .branch h fun shard hshard => ?_
  obtain ⟨s, -, rfl⟩ := List.mem_map.1 hshard
  refine .branch (by decide) (List.forall_mem_cons.2 ⟨.leaf (by decide),
    List.forall_mem_cons.2 ⟨.leaf (by decide), fun replica hreplica => ?_⟩⟩)
  obtain ⟨r, -, rfl⟩ := List.mem_map.1 hreplica
  refine .branch (by decide) ?_
  simp only [List.forall_mem_cons]
  exact ⟨.leaf (by decide), .leaf (by decide), by simp⟩

theorem named_zookeeperElement (z : ZookeeperNode) : (zookeeperElement z).Named := by
  refine .branch (by decide) ?_
  simp only [List.forall_mem_cons]
  exact ⟨.leaf (by decide), .leaf (by decide), by simp⟩

theorem named_remoteServers (a : Addressing) {t : Topology}
    (h : ∀ c ∈ t.clusters, isElementName c.name = true) :
    Element.Named (.branch "remote_servers" (t.clusters.map (clusterElement a))) := by
  refine .branch (by decide) fun e he => ?_
  obtain ⟨c, hc, rfl⟩ := List.mem_map.1 he
  exact named_clusterElement a (h c hc)

theorem isFragment_remoteServers {t : Topology} {a : Addressing}
    (h : ∀ c ∈ t.clusters, isElementName c.name = true) : IsFragment (remoteServers t a) :=
  isFragment_ite (List.forall_mem_singleton.2 (named_remoteServers a h))

theorem named_zookeeper (installation : String) (z : Zookeeper) :
    ∀ e ∈ [Element.branch "zookeeper" (z.nodes.map zookeeperElement),
      .branch "distributed_ddl" [.leaf "path" (Names.statementQueue installation)]], e.Named := by
  refine List.forall_mem_cons.2 ⟨.branch (by decide) fun e he => ?_,
    List.forall_mem_singleton.2 (.branch (by decide)
      (List.forall_mem_singleton.2 (.leaf (by decide))))⟩
  obtain ⟨node, -, rfl⟩ := List.mem_map.1 he
  exact named_zookeeperElement node

theorem isFragment_zookeeper (installation : String) (z : Zookeeper) :
    IsFragment (zookeeper installation z) :=
  isFragment_ite (named_zookeeper installation z)

theorem isFragment_settings (section? : Option String) (s : Settings)
    (h : ∀ tag ∈ section?, isElementName tag = true) :
    IsFragment (settings section? s).value := by
  have hnamed := SettingTree.named_elementsOfAll_ofSettings s
  simp only [settings, Logged.value_bind]
  split
  next => exact .inl rfl
  next =>
    cases section? with
    | none => exact .inr ⟨_, hnamed, rfl⟩
    | some tag => exact .inr ⟨_, List.forall_mem_singleton.2 (.branch (h tag rfl) hnamed), rfl⟩

theorem isDocument_macros {installation deployment : String} {places : List ShardPlace}
    (h : ∀ p ∈ places, isElementName p.cluster = true) :
    IsDocument (macros installation deployment places) := by
  refine ⟨_, List.forall_mem_singleton.2 (.branch (by decide) fun e he => ?_), rfl⟩
  rw [List.mem_append, List.mem_cons, List.mem_singleton] at he
  rcases he with (rfl | hplace) | rfl
  · exact .leaf (by decide)
  · obtain ⟨p, hp, rfl⟩ := List.mem_map.1 hplace
    exact .leaf (isElementName_append (h p hp) (by decide))
  · exact .leaf (by decide)

end Fragment

/-! ### Shared fragments and macros -/

section OfSpec

variable {s : Spec} (hs : s.validate = .ok ())

include hs

theorem Topology.isElementName_of_mem_clusters {c : Cluster} (hc : c ∈ (walk s).clusters) :
    Xml.isElementName c.name = true := by
  obtain ⟨i, hi⟩ := List.mem_iff_getElem?.1 hc
  rw [clusters_walk_getElem?] at hi
  obtain ⟨declared, hdeclared, rfl⟩ := Option.map_eq_some_iff.1 hi
  exact Spec.validate_eq_ok_iff.1 hs declared (List.mem_of_getElem? hdeclared)

theorem Bundle.isFragment_of_mem_fragments {installation inNamespace : String}
    {e : String × String} (he : e ∈ fragments installation inNamespace s (Topology.walk s)) :
    Xml.IsFragment e.2 := by
  have hclusters := fun c => Topology.isElementName_of_mem_clusters hs (c := c)
  simp only [fragments, unclustered, List.mem_cons, List.not_mem_nil, or_false] at he
  -- clusters, coordination, then users, profiles and quotas in their sections, and the settings
  rcases he with rfl | rfl | rfl | rfl | rfl | rfl
  · exact Fragment.isFragment_remoteServers hclusters
  · exact Fragment.isFragment_zookeeper _ _
  · exact Fragment.isFragment_settings (some "users") _ (by decide)
  · exact Fragment.isFragment_settings (some "profiles") _ (by decide)
  · exact Fragment.isFragment_settings (some "quotas") _ (by decide)
  · exact Fragment.isFragment_settings none _ (by decide)

variable {installation inNamespace image file content : String}

theorem Basis.isDocument_of_get?_commonMap
    (h : (derived installation inNamespace image s).commonMap.data.get? file =
      some content) : Xml.IsDocument content := by
  have hget : (Bundle.compose installation inNamespace s (Topology.walk s)).value.files.get? file =
      some content := h
  obtain ⟨hmem, hne⟩ := Bundle.get?_files_compose_eq_some_iff.1 hget
  exact (Bundle.isFragment_of_mem_fragments hs hmem).resolve_left hne

theorem Basis.isDocument_of_get?_macrosMap {p : Placement}
    (hp : p ∈ (Topology.walk s).placements)
    (h : ((derived installation inNamespace image s).macrosMap
      p.replica.deployment).data.get? file = some content) : Xml.IsDocument content := by
  have hcluster := Topology.isElementName_of_mem_clusters hs (Topology.mem_placements_iff.1 hp).1
  rw [data_macrosMap_derived hp, Dictionary.get?_insert, Dictionary.get?_empty] at h
  split at h
  next =>
    obtain rfl := Option.some.inj h
    exact Fragment.isDocument_macros (List.forall_mem_singleton.2 hcluster)
  next => cases h

end OfSpec

namespace Installation

/-- Every file of a compilation is one element with the root's tag, whatever the installation
holds. -/
theorem spells_of_compile {i : Installation} {o : Options} {objects : Objects}
    (h : (i.compile o).outcome = .ok objects) :
    ∀ map ∈ objects.configMaps, ∀ file content, map.data.get? file = some content →
      ∃ root, root.tag = "yandex" ∧ Xml.Spells [root] content.toList := by
  obtain ⟨name, -, hvalid, -, -, rfl⟩ := compile_eq_ok_iff.1 h
  intro map hmap file content hcontent
  refine Xml.IsDocument.exists_spells ?_
  rcases List.mem_cons.1 hmap with rfl | hmap
  · exact Basis.isDocument_of_get?_commonMap hvalid hcontent
  · obtain ⟨d, hd, rfl⟩ := List.mem_map.1 hmap
    obtain ⟨p, hp, rfl⟩ := Topology.mem_deployments_iff.1 hd
    exact Basis.isDocument_of_get?_macrosMap hvalid hp hcontent

theorem spells_hostile :
    ∃ objects, ((named "</macros><!-- & -->" Spec.pair).compile .none).outcome = .ok objects ∧
      ∃ map ∈ objects.configMaps, ∃ content, map.data.get? "macros.xml" = some content ∧
        ∃ root, root.tag = "yandex" ∧ Xml.Spells [root] content.toList := by
  obtain ⟨objects, hobjects⟩ := exists_compile_of_unset (o := .none)
    (i := named "</macros><!-- & -->" Spec.pair) rfl rfl (by decide) selection_pair
  obtain ⟨p, hp⟩ : ∃ p, (Topology.walk Spec.pair).at? 0 0 1 = some p := ⟨_, rfl⟩
  obtain ⟨r, hr, -⟩ :=
    exists_replica_of_compile hobjects (Topology.mem_placements_iff_at?.2 ⟨_, _, _, hp⟩)
  obtain ⟨_, -, hgrouped, hmacros⟩ := macros_of_compile hobjects
  obtain ⟨_, -, -, hcontent⟩ := hmacros r hr
  have hmap : r.macros ∈ objects.configMaps.tail := hgrouped.configMaps ▸ List.mem_map_of_mem hr
  have hmem := List.mem_of_mem_tail hmap
  exact ⟨objects, hobjects, _, hmem, _, hcontent,
    spells_of_compile hobjects _ hmem _ _ hcontent⟩

end Installation

end ShardManifest
