import ShardManifest.Proofs.DeploymentBound
import ShardManifest.Proofs.FragmentMarkup
import ShardManifest.Proofs.Yaml.Endings

/-!
# The stream of a compilation

The objects of a compilation are printed one after the other, with lines of three hyphens between
them. Whatever their texts hold, no line within an object is such a line, so a reader who takes every
break of YAML for the end of a line finds the objects again. One who cuts at line feeds only finds
them unless a StatefulSet ends in another break.

## Main definitions

- `Objects.CutAt`: cut at some ends of lines, the stream falls into the printed objects

## Main results

- `Objects.cutAt_isBreak`: at the breaks of YAML it does
- `Objects.cutAt_feed_iff`: whether it does at line feeds
- `Installation.yamlStream_of_compile`: the stream of a compilation
-/

namespace ShardManifest

open Kubernetes Yaml

/-- Where lines end as given, the pieces of the stream between lines of three hyphens are the printed
objects, in their order. -/
def Objects.CutAt (ends : Char → Bool) (o : Objects) : Prop :=
  piecesAt ends (printAll o.documents).toList = o.documents.map fun d => (print d).toList

theorem forall_mem_dropLast_append_iff {α : Type} {P : α → Prop} {front back : List α}
    (hfront : ∀ a ∈ front, P a) :
    (∀ a ∈ (front ++ back).dropLast, P a) ↔ ∀ a ∈ back.dropLast, P a := by
  by_cases hback : back = []
  · have hall : ∀ a ∈ front.dropLast, P a := fun a ha => hfront a (List.dropLast_subset _ ha)
    simpa [hback] using hall
  · rw [List.dropLast_append_of_ne_nil hback, List.forall_mem_append]
    exact and_iff_right hfront

namespace Objects

variable {o : Objects} {ends : Char → Bool}

theorem length_documents (o : Objects) : o.documents.length = o.count := by
  rw [documents, List.length_append, List.length_append, List.length_map, List.length_map,
    List.length_map, count]

theorem exists_mapping_of_mem_documents {d : Document} (h : d ∈ o.documents) :
    ∃ members, d = .mapping members := by
  simp only [documents, List.mem_append, List.mem_map] at h
  rcases h with (⟨service, -, rfl⟩ | ⟨map, -, rfl⟩) | ⟨set, -, rfl⟩ <;> exact ⟨_, rfl⟩

/-- Where only breaks of YAML end lines, all that matters is that the objects in front end their
last lines. -/
theorem cutAt_iff (hends : ∀ c, ends c = true → isBreak c = true) (hfeed : ends '\n' = true)
    (hne : o.documents ≠ []) :
    o.CutAt ends ↔ ∀ d ∈ o.documents.dropLast, Closed ends (print d).toList := by
  have hhyphen : ends '-' = false := by
    rw [Bool.eq_false_iff]
    intro h
    have hbreak := hends '-' h
    cases hbreak
  have hunseparated : ∀ t ∈ o.documents.map fun d => (print d).toList, Unseparated ends t := by
    intro t ht
    obtain ⟨d, hd, rfl⟩ := List.mem_map.1 ht
    obtain ⟨members, rfl⟩ := exists_mapping_of_mem_documents hd
    -- with fewer ends of lines there are no more separators
    have hblock := (lineBlock_print_mapping members).unseparated
    rw [unseparated_iff rfl] at hblock
    rw [unseparated_iff hhyphen]
    exact fun hseparated => hblock (hseparated.mono hends)
  have hstream : (printAll o.documents).toList =
      ['-', '-', '-', '\n'].intercalate (o.documents.map fun d => (print d).toList) := by
    rw [printAll, String.toList_intercalate, List.map_map]
    rfl
  rw [CutAt, hstream, piecesAt_intercalate_iff hhyphen hfeed (by simpa using hne) hunseparated,
    ← List.map_dropLast, List.forall_mem_map]

/-- Cut at the breaks of YAML, a stream falls into the printed objects. -/
theorem cutAt_isBreak (hne : o.documents ≠ []) : o.CutAt isBreak := by
  rw [cutAt_iff (fun _ h => h) rfl hne]
  intro d hd
  obtain ⟨members, rfl⟩ := exists_mapping_of_mem_documents (List.dropLast_subset _ hd)
  exact (lineBlock_print_mapping members).closed

theorem cutAt_feed_iff (hne : o.documents ≠ []) :
    o.CutAt (· = '\n') ↔ ∀ d ∈ o.documents.dropLast, ¬d.Overhangs := by
  have hends : ∀ c : Char, decide (c = '\n') = true → isBreak c = true := by
    intro c hc
    rw [of_decide_eq_true hc]
    rfl
  simp only [cutAt_iff hends rfl hne, closed_feed_print_iff]

end Objects

/-! ### Which objects overhang -/

theorem Xml.getLast?_document (elements : List Element) :
    (document elements).toList.getLast? = some '\n' := by
  simp [document, Writer.finish, Writer.call, rootElement]

/-- A document of XML does not overhang, in whatever form it is written. -/
theorem Xml.IsDocument.not_overhangs {content : String} (h : IsDocument content) :
    ¬Yaml.Overhangs content := by
  obtain ⟨elements, -, rfl⟩ := h
  rintro ⟨-, hend⟩
  rw [getLast?_document] at hend
  revert hend
  decide

namespace Basis

variable {b : Basis}

theorem documents_objects_ne_nil (b : Basis) : b.objects.documents ≠ [] := by
  simp [Objects.documents, objects, value_services]

theorem not_overhangs_of_mem_services {s : Service} (h : s ∈ b.objects.services) :
    ¬s.document.Overhangs := by
  rw [objects, value_services] at h
  rcases List.mem_cons.1 h with rfl | h
  · have hfinal : b.installationService.value.document.finalText? = some "LoadBalancer" := rfl
    rw [Document.overhangs_iff hfinal]
    decide
  · obtain ⟨d, -, rfl⟩ := List.mem_map.1 h
    have hfinal : (b.replicaService d).value.document.finalText? = some "ClusterIP" := rfl
    rw [Document.overhangs_iff hfinal]
    decide

end Basis

/-- Texts by name end with one of them. -/
theorem Kubernetes.finalText?_textsDocument {t : Texts} (h : t.isEmpty = false) :
    ∃ key text, t.get? key = some text ∧ (textsDocument t).finalText? = some text := by
  rcases List.eq_nil_or_concat t.entries with hentries | ⟨init, ⟨key, text⟩, hentries⟩
  · rw [Dictionary.isEmpty, hentries] at h
    cases h
  · refine ⟨key, text, ?_, ?_⟩
    · rw [← Dictionary.mem_entries_iff, hentries, List.concat_eq_append]
      exact List.mem_concat_self
    · rw [textsDocument, hentries, List.map_concat, List.concat_eq_append,
        Document.finalText?_mapping_concat]
      rfl

/-- The text that a ConfigMap ends with is one of its files, or a label if it has none. -/
theorem Kubernetes.ConfigMap.finalText?_document {map : ConfigMap} {b : Basis} {name : String}
    (hmetadata : map.metadata = b.metadata name) :
    map.document.finalText? = some "chop" ∨
      ∃ file content, map.data.get? file = some content ∧
        map.document.finalText? = some content := by
  rw [document, whenTexts, hmetadata]
  cases hdata : map.data.isEmpty with
  | true => exact .inl rfl
  | false =>
    obtain ⟨file, content, hget, hfinal⟩ := finalText?_textsDocument hdata
    refine .inr ⟨file, content, hget, ?_⟩
    rw [← hfinal]
    exact Document.finalText?_mapping_concat _ _ _

namespace Installation

variable {i : Installation} {o : Options} {name : String}

/-- What a ConfigMap of an installation with proper cluster names holds are documents of XML. -/
theorem isDocument_of_mem_configMaps (hvalid : i.spec.validate = .ok ()) {map : ConfigMap}
    (hmap : map ∈ (i.basisNamed o name).objects.configMaps) {file content : String}
    (hcontent : map.data.get? file = some content) : Xml.IsDocument content := by
  rcases List.mem_cons.1 hmap with rfl | hmap
  · exact Basis.isDocument_of_get?_commonMap hvalid hcontent
  · obtain ⟨d, hd, rfl⟩ := List.mem_map.1 hmap
    obtain ⟨p, hp, rfl⟩ := Topology.mem_deployments_iff.1 hd
    exact Basis.isDocument_of_get?_macrosMap hvalid hp hcontent

theorem not_overhangs_of_mem_configMaps (hvalid : i.spec.validate = .ok ()) {map : ConfigMap}
    (hmap : map ∈ (i.basisNamed o name).objects.configMaps) : ¬map.document.Overhangs := by
  have hmetadata : ∃ n, map.metadata = (i.basisNamed o name).metadata n := by
    rcases List.mem_cons.1 hmap with rfl | hmap
    · exact ⟨_, rfl⟩
    · obtain ⟨d, -, rfl⟩ := List.mem_map.1 hmap
      exact ⟨_, rfl⟩
  obtain ⟨n, hmetadata⟩ := hmetadata
  rcases ConfigMap.finalText?_document hmetadata with hfinal | ⟨file, content, hget, hfinal⟩
  · rw [Document.overhangs_iff hfinal]
    decide
  · rw [Document.overhangs_iff hfinal]
    exact (isDocument_of_mem_configMaps hvalid hmap hget).not_overhangs

/-- Only StatefulSets can overhang. -/
theorem cutAt_feed_basisNamed_iff (hvalid : i.spec.validate = .ok ()) :
    (i.basisNamed o name).objects.CutAt (· = '\n') ↔
      ∀ set ∈ (i.basisNamed o name).objects.statefulSets.dropLast, ¬set.document.Overhangs := by
  have hothers : ∀ d ∈ (i.basisNamed o name).objects.services.map Service.document ++
      (i.basisNamed o name).objects.configMaps.map ConfigMap.document, ¬d.Overhangs := by
    intro d hd
    rcases List.mem_append.1 hd with hd | hd
    · obtain ⟨service, hservice, rfl⟩ := List.mem_map.1 hd
      exact Basis.not_overhangs_of_mem_services hservice
    · obtain ⟨map, hmap, rfl⟩ := List.mem_map.1 hd
      exact not_overhangs_of_mem_configMaps hvalid hmap
  rw [Objects.cutAt_feed_iff (Basis.documents_objects_ne_nil _), Objects.documents,
    forall_mem_dropLast_append_iff hothers, ← List.map_dropLast, List.forall_mem_map]

/-- The stream of a compilation. It has one document for each object, and a reader who takes each
break of YAML for the end of a line finds them between the lines of three hyphens, whatever the
installation holds. One who cuts at line feeds finds them exactly if no StatefulSet but the last one
ends with a text that is written as a literal block and has another break at its end. -/
theorem yamlStream_of_compile {objects : Objects} (h : (i.compile o).outcome = .ok objects) :
    objects.documents.length = objects.count ∧ objects.CutAt isBreak ∧
      (objects.CutAt (· = '\n') ↔
        ∀ set ∈ objects.statefulSets.dropLast, ¬set.document.Overhangs) := by
  obtain ⟨name, -, hvalid, -, -, rfl⟩ := compile_eq_ok_iff.1 h
  exact ⟨Objects.length_documents _, Objects.cutAt_isBreak (Basis.documents_objects_ne_nil _),
    cutAt_feed_basisNamed_iff hvalid⟩

/-- Replicas of one shard, with claims that end with a text of two lines, of which the second ends
in a line separator. -/
def stored (replicas : UInt32) : Installation :=
  named "demo" { Spec.ofClusters [⟨"main", ⟨.standard, none, some replicas, []⟩,
      ⟨none, some "data"⟩⟩] with
    templates := ⟨[],
      [⟨"data", ⟨.unset, ⟨.mapping [("volumeName", .text "a\nb\u2028")]⟩⟩⟩]⟩ }

theorem selection_stored (replicas : UInt32) :
    ∀ p ∈ (Topology.walk (stored replicas).spec).placements,
      p.replica.selection = ⟨none, some "data"⟩ := by
  intro p hp
  obtain ⟨c, sh, r, hp⟩ := Topology.mem_placements_iff_at?.1 hp
  obtain ⟨cluster, plan, replica, hcluster, hplan, hreplica, rfl⟩ :=
    Topology.at?_walk_eq_some_iff.1 hp
  obtain rfl := List.mem_singleton.1 (List.mem_of_getElem? hcluster)
  obtain rfl := List.eq_of_mem_replicate (List.mem_of_getElem? hplan)
  obtain rfl := List.eq_of_mem_replicate (List.mem_of_getElem? hreplica)
  rfl

theorem validate_stored (replicas : UInt32) : (stored replicas).spec.validate = .ok () := by
  have hname : Xml.isElementName "main" = true := by decide
  rw [Spec.validate_eq_ok_iff]
  exact List.forall_mem_singleton.2 hname

theorem hasRoom_stored (replicas : UInt32) :
    Topology.HasRoom (Topology.capacity (stored replicas).spec) := by
  have hcapacity : Topology.capacity (stored replicas).spec = replicas.toNat := by
    simp [Topology.capacity, Spec.deploymentBound, Spec.layoutBound, stored, named, Spec.ofClusters]
  have hlt : replicas.toNat < 4294967296 := replicas.toNat_lt
  have hsize : UInt64.size = 18446744073709551616 := rfl
  rw [hcapacity, Topology.hasRoom_iff (by omega)]
  omega

theorem digestsTellSelections_stored (replicas : UInt32) :
    (stored replicas).spec.DigestsTellSelections :=
  Spec.digestsTellSelections_of_eq (selection_stored replicas)

theorem compile_stored (replicas : UInt32) :
    ((stored replicas).compile .none).outcome =
      .ok ((stored replicas).basisNamed .none "demo").objects := by
  refine compile_eq_ok_iff.2
    ⟨"demo", rfl, validate_stored replicas, hasRoom_stored replicas, ?_, rfl⟩
  intro d hd template hempty
  rw [basisNamed,
    Basis.selectsEmptyPod_derived_iff _ _ _ (digestsTellSelections_stored replicas) hd] at hempty
  obtain ⟨p, hp, -, htemplate, -⟩ := hempty
  rw [selection_stored replicas p hp] at htemplate
  cases htemplate

theorem overhangs_stored {replicas : UInt32} {set : StatefulSet}
    (h : set ∈ ((stored replicas).basisNamed .none "demo").objects.statefulSets) :
    set.document.Overhangs := by
  obtain ⟨d, hd, rfl⟩ := List.mem_map.1 h
  obtain ⟨p, hp, rfl⟩ := Topology.mem_deployments_iff.1 hd
  have hresolved := Basis.resolved_derived "demo" ((stored replicas).targetNamespace .none)
    Options.none.defaultImage (digestsTellSelections_stored replicas) hp
  rw [selection_stored replicas p hp] at hresolved
  have hclaim : ((stored replicas).basisNamed .none "demo").claimOf p.replica.deployment =
      some ⟨.useDefault, .empty, ⟨.mapping [("volumeName", .text "a\nb\u2028")]⟩⟩ := by
    rw [Basis.claimOf, basisNamed, hresolved]
    rfl
  refine ⟨"a\nb\u2028", ?_, by decide⟩
  rw [Basis.replicaSet, hclaim]
  rfl

theorem length_statefulSets_stored (replicas : UInt32) :
    ((stored replicas).basisNamed .none "demo").objects.statefulSets.length = replicas.toNat := by
  have hdeclared : (stored replicas).spec.declaredReplicas = replicas.toNat := by
    simp [Spec.declaredReplicas, Layout.declaredReplicas, stored, named, Spec.ofClusters]
  rw [← hdeclared, ← Topology.length_deployments_walk]
  exact List.length_map _

theorem not_cutAt_feed_stored :
    ∃ objects, ((stored 2).compile .none).outcome = .ok objects ∧
      piecesAt (· = '\n') (printAll objects.documents).toList ≠
        objects.documents.map fun d => (print d).toList := by
  refine ⟨_, compile_stored 2, fun hcut => ?_⟩
  have hnone := (cutAt_feed_basisNamed_iff (validate_stored 2)).1 hcut
  have hlength := length_statefulSets_stored 2
  -- of two StatefulSets one is not the last
  obtain ⟨set, hset⟩ : ∃ set,
      set ∈ ((stored 2).basisNamed .none "demo").objects.statefulSets.dropLast := by
    refine List.exists_mem_of_ne_nil _ fun hnil => ?_
    have hdropped := congrArg List.length hnil
    rw [List.length_dropLast, hlength] at hdropped
    cases hdropped
  exact hnone set hset (overhangs_stored (List.dropLast_subset _ hset))

/-- With one replica there is nothing behind the object that overhangs. -/
theorem yamlStream_stored :
    ∃ objects, ((stored 1).compile .none).outcome = .ok objects ∧ objects.CutAt (· = '\n') := by
  obtain ⟨-, -, hfeed⟩ := yamlStream_of_compile (compile_stored 1)
  refine ⟨_, compile_stored 1, hfeed.2 ?_⟩
  obtain ⟨last, hlast⟩ := List.length_eq_one_iff.1 (length_statefulSets_stored 1)
  simp [hlast]

end Installation

end ShardManifest
