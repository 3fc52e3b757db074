import ShardManifest.CommandLine
import ShardManifest.Proofs.ClusterDefinition
import ShardManifest.Proofs.ServiceNames

/-!
# The list of hosts

The list of hosts is written without any object being built. Still it lists what a compilation of
the same file under the same options gives: line by line a StatefulSet, its pod and the Service of
that pod. Where the compilation fails by a check, so does the list, and for the same reason; where
it breaks off for want of room, so does the list. Only an empty pod template does not keep the list
from being written.

## Main definitions

- `HostLine`, `HostLine.print`: the lines of the list, and their text
- `Objects.Lists`: a line tells a StatefulSet, its pod and its Service
- `Objects.DefinesHosts`: the hosts in the cluster definition of a compilation

## Main results

- `HostLine.splitOn_print`: the text is cut into its lines again
- `Installation.basis_eq_ok_iff`, `Installation.basis_of_compile_eq_error`: when there is a list
- `Invocation.hosts_agree`: the list and the compilation of the same file agree
-/

namespace ShardManifest

open Kubernetes

/-! ### Lines -/

/-- What the list of hosts tells about a replica. -/
structure HostLine where
  statefulSet : String
  podHost : String
  qualifiedHost : String
deriving DecidableEq, Repr

namespace HostLine

def text (line : HostLine) : String :=
  line.statefulSet ++ "\t" ++ line.podHost ++ "\t" ++ line.qualifiedHost

def print (lines : List HostLine) : String :=
  String.join (lines.map fun line => line.text ++ "\n")

/-- The line of a replica with an identifier, in a namespace. -/
def ofReplica (inNamespace deployment : String) : HostLine :=
  ⟨"chi-" ++ deployment, "chi-" ++ deployment ++ "-0",
    "chi-service-" ++ deployment ++ "." ++ inNamespace ++ ".svc.cluster.local"⟩

theorem ofReplica_eq (inNamespace deployment : String) :
    ofReplica inNamespace deployment = ⟨Names.statefulSet deployment, Names.podHost deployment,
      Names.qualifiedHost inNamespace deployment⟩ := by
  simp only [ofReplica, Names.statefulSet, Names.podHost, Names.qualifiedHost,
    Names.replicaService, Names.namespaceDomain, String.append_assoc]

/-- Lines without line breaks are what their text is cut into. -/
theorem splitOn_print {lines : List HostLine} (h : ∀ line ∈ lines, '\n' ∉ line.text.toList) :
    (print lines).toList.splitOn '\n' = lines.map (·.text.toList) ++ [[]] := by
  induction lines with
  | nil => rfl
  | cons line rest ih =>
    obtain ⟨hline, hrest⟩ := List.forall_mem_cons.1 h
    have htext : (print (line :: rest)).toList =
        line.text.toList ++ '\n' :: (print rest).toList := by
      simp [print]
    rw [htext, List.splitOn_append_cons_self_of_not_mem hline, ih hrest]
    rfl

end HostLine

/-! ### Identifiers have no line breaks -/

theorem lineBreak_not_mem_deploymentId (s : Selection) (cluster shard replica : Nat) :
    '\n' ∉ (deploymentId (.of s) cluster shard replica).toList := by
  have hnumeral : ∀ n, '\n' ∉ Nat.toDigits 10 n := fun n h =>
    absurd (isDigit_of_mem_toDigits h) (by decide)
  have hshort : '\n' ∉ (Fingerprint.of s).short.toList := fun h =>
    Fingerprint.forall_mem_short (P := (· ≠ '\n')) (by decide) s _ h rfl
  simp [deploymentId, hnumeral, hshort]

namespace HostLine

/-- The line of a replica has no line break unless the namespace has one. -/
theorem lineBreak_not_mem_text {inNamespace : String} (h : '\n' ∉ inNamespace.toList) {s : Spec}
    {d : String} (hd : d ∈ (Topology.walk s).deployments) :
    '\n' ∉ (ofReplica inNamespace d).text.toList := by
  obtain ⟨p, hp, rfl⟩ := Topology.mem_deployments_iff.1 hd
  obtain ⟨cluster, shard, replica, hat⟩ := Topology.mem_placements_iff_at?.1 hp
  have hid := lineBreak_not_mem_deploymentId p.replica.selection cluster shard replica
  rw [← Topology.deployment_of_at?_walk hat] at hid
  simp [ofReplica, text, h, hid]

end HostLine

/-! ### When there is a list -/

namespace Installation

variable {i : Installation} {o : Options} {b : Basis} {fault : Fault} {objects : Objects}

/-- There is a basis for an installation that passes the checks and can list its deployments. -/
theorem basis_eq_ok_iff :
    (i.basis o).outcome = .ok b ↔
      ∃ name, i.name? = some name ∧ i.spec.validate = .ok () ∧
        Topology.HasRoom (Topology.capacity i.spec) ∧ b = i.basisNamed o name := by
  cases hname : i.name? with
  | none => simp [basis, hname]
  | some name =>
    cases hvalid : i.spec.validate with
    | error fault => simp [basis, basis.liftExcept, hname, hvalid]
    | ok _ =>
      by_cases hroom : Topology.HasRoom (Topology.capacity i.spec)
      · simp [basis_of_checked hname hvalid, hroom, eq_comm]
      · simp [basis_of_checked hname hvalid, hroom]

/-- A compilation succeeds on the basis of the installation. -/
theorem basis_of_compile_eq_ok (h : (i.compile o).outcome = .ok objects) :
    ∃ name, (i.basis o).outcome = .ok (i.basisNamed o name) ∧
      objects = (i.basisNamed o name).objects := by
  obtain ⟨name, hname, hvalid, hroom, -, hobjects⟩ := compile_eq_ok_iff.1 h
  exact ⟨name, basis_eq_ok_iff.2 ⟨name, hname, hvalid, hroom, rfl⟩, hobjects⟩

/-- A compilation fails by a check or for want of room, and then there is no basis, or by an empty
pod template of an installation that has one. -/
theorem basis_of_compile_eq_error (h : (i.compile o).outcome = .error fault) :
    ((∃ detail, fault = .validation detail) ∨ fault = .capacityOverflow) ∧
        (i.basis o).outcome = .error fault ∨
      (∃ template d, fault = .emptyPodTemplate template d) ∧
        ∃ name, (i.basis o).outcome = .ok (i.basisNamed o name) := by
  rcases compile_eq_error_iff.1 h with ⟨hname, rfl⟩ |
    ⟨name, hname, hfault | ⟨hvalid, ⟨hroom, rfl⟩ | ⟨hroom, hsets⟩⟩⟩
  · exact .inl ⟨.inl ⟨_, rfl⟩, by simp [basis, hname]⟩
  · obtain ⟨_, c, _, -, -, -, hdetail⟩ := Spec.validate_eq_error_iff.1 hfault
    exact .inl ⟨.inl ⟨_, hdetail⟩, by simp [basis, basis.liftExcept, hname, hfault]⟩
  · exact .inl ⟨.inr rfl, by rw [basis_of_checked hname hvalid, if_neg hroom]⟩
  · exact .inr ⟨Basis.fault_of_statefulSets (i.consistent_basisNamed o name) hsets, name,
      basis_eq_ok_iff.2 ⟨name, hname, hvalid, hroom, rfl⟩⟩

theorem hostLines_eq_print (i : Installation) (o : Options) (deployments : List String) :
    i.hostLines o deployments =
      HostLine.print (deployments.map (HostLine.ofReplica (i.targetNamespace o))) := by
  rw [hostLines, HostLine.print, List.map_map]
  congr 1
  refine List.map_congr_left fun d _ => ?_
  rw [Function.comp_apply, HostLine.ofReplica_eq]
  rfl

theorem perform_hosts_eq_bind (i : Installation) (o : Options) :
    i.perform o .hosts =
      (i.basis o).outcome >>= fun b => .ok (i.hostLines o b.deployments) := rfl

/-- The list of hosts of an installation that has a basis. -/
theorem perform_hosts {name : String} (h : (i.basis o).outcome = .ok (i.basisNamed o name)) :
    i.perform o .hosts = .ok (HostLine.print
      ((Topology.walk i.spec).deployments.map (HostLine.ofReplica (i.targetNamespace o)))) := by
  rw [perform_hosts_eq_bind, h, ok_bind, hostLines_eq_print]
  rfl

end Installation

/-! ### What the lines tell about objects -/

/-- A line tells the name of a StatefulSet, the host of its pod, and the Service of that pod under
its fully qualified name. -/
structure Objects.Lists (objects : Objects) (set : StatefulSet) (line : HostLine) : Prop where
  statefulSet : line.statefulSet = set.metadata.name
  podHost : line.podHost = set.metadata.name ++ "-0"
  served : ∃ service ∈ objects.services, service.metadata.name = set.spec.serviceName
  qualifiedHost : ∀ service ∈ objects.services, service.metadata.name = set.spec.serviceName →
    line.qualifiedHost =
      service.metadata.name ++ "." ++ service.metadata.inNamespace ++ ".svc.cluster.local"

/-- The hosts of all replicas in the cluster definition; none if there is no definition. -/
def Objects.DefinesHosts (objects : Objects) (hosts : List String) : Prop :=
  ∃ common, objects.configMaps.head? = some common ∧
    (common.data.get? "remote_servers.xml" = none ∧ hosts = [] ∨
      ∃ content root, common.data.get? "remote_servers.xml" = some content ∧
        Xml.read? content = some root ∧ hosts = root.hosts)

namespace Basis

theorem inNamespace_of_mem_services {b : Basis} {service : Service}
    (h : service ∈ b.objects.services) : service.metadata.inNamespace = b.inNamespace := by
  rw [objects, value_services, List.mem_cons] at h
  rcases h with rfl | h
  · rfl
  · obtain ⟨d, -, rfl⟩ := List.mem_map.1 h
    rfl

/-- The line of an identifier tells the objects that a basis has for it. -/
theorem lists_replicaSet {b : Basis} {d : String} (hd : d ∈ b.deployments) :
    b.objects.Lists (b.replicaSet d) (.ofReplica b.inNamespace d) where
  statefulSet := rfl
  podHost := rfl
  served := by
    refine ⟨(b.replicaService d).value, ?_, rfl⟩
    rw [objects, value_services]
    exact List.mem_cons_of_mem _ (List.mem_map_of_mem hd)
  qualifiedHost := by
    intro service hservice hname
    rw [inNamespace_of_mem_services hservice, hname]
    rfl

theorem get?_commonMap_remoteServers_of_nil {installation inNamespace image : String} {s : Spec}
    (h : s.configuration.clusters = []) :
    (derived installation inNamespace image s).commonMap.data.get? "remote_servers.xml" =
      none := by
  have hnone : Fragment.remoteServers (Topology.walk s) (Bundle.addressing inNamespace s) = "" :=
    Fragment.remoteServers_eq_empty_iff.2 (by simp [Topology.walk, h])
  refine Option.eq_none_iff_forall_ne_some.2 fun content hcontent => ?_
  have hget : (Bundle.compose installation inNamespace s (Topology.walk s)).value.files.get?
      File.remoteServers = some content := hcontent
  obtain ⟨hmem, hne⟩ := Bundle.get?_files_compose_eq_some_iff.1 hget
  have hfirst : (File.remoteServers,
      Fragment.remoteServers (Topology.walk s) (Bundle.addressing inNamespace s)) ∈
        Bundle.fragments installation inNamespace s (Topology.walk s) := List.mem_cons_self
  have heq := congrArg Prod.snd (Bundle.eq_of_mem_fragments hmem hfirst rfl)
  exact hne (heq.trans hnone)

end Basis

namespace Installation

/-- The cluster definition has the hosts of all placements, if there are clusters or not. -/
theorem definesHosts_basisNamed {i : Installation} (hvalid : i.spec.validate = .ok ())
    (o : Options) (name : String) :
    (i.basisNamed o name).objects.DefinesHosts ((Topology.walk i.spec).placements.map fun p =>
      (Bundle.addressing (i.targetNamespace o) i.spec).host p.replica.deployment) := by
  refine ⟨(i.basisNamed o name).commonMap, rfl, ?_⟩
  by_cases hclusters : i.spec.configuration.clusters = []
  · have hnone : (Topology.walk i.spec).placements = [] := by
      simp [Topology.placements, Topology.walk, hclusters]
    exact .inl ⟨Basis.get?_commonMap_remoteServers_of_nil hclusters, by rw [hnone]; rfl⟩
  · have hread := Fragment.read?_remoteServers (t := Topology.walk i.spec)
      (Bundle.addressing (i.targetNamespace o) i.spec)
      (fun _ => Topology.isElementName_of_mem_clusters hvalid)
      (by simpa [Topology.walk] using hclusters)
    exact .inr ⟨_, _, Basis.get?_commonMap_remoteServers hclusters, hread,
      (Fragment.hosts_serversRead _ _).symm⟩

/-! ### The list and the compilation -/

variable {i : Installation} {o : Options} {objects : Objects} {fault : Fault}

theorem perform_compile_eq_bind (i : Installation) (o : Options) :
    i.perform o .compile =
      (i.compile o).outcome >>= fun objects => .ok (Yaml.printAll objects.documents) := rfl

theorem perform_compile_ok (h : (i.compile o).outcome = .ok objects) :
    i.perform o .compile = .ok (Yaml.printAll objects.documents) := by
  rw [perform_compile_eq_bind, h, ok_bind]

theorem perform_compile_error (h : (i.compile o).outcome = .error fault) :
    i.perform o .compile = .error fault := by
  rw [perform_compile_eq_bind, h, error_bind]

/-- Where a compilation succeeds, the list has a line for each of its StatefulSets. -/
theorem perform_hosts_of_compile_eq_ok (h : (i.compile o).outcome = .ok objects) :
    ∃ lines, i.perform o .hosts = .ok (HostLine.print lines) ∧
      List.Forall₂ objects.Lists objects.statefulSets lines ∧
      ('\n' ∉ (i.targetNamespace o).toList →
        (HostLine.print lines).toList.splitOn '\n' = lines.map (·.text.toList) ++ [[]]) ∧
      (i.spec.defaults.qualifiedHosts = true →
        ∃ hosts, objects.DefinesHosts hosts ∧ (lines.map (·.qualifiedHost)).Perm hosts) := by
  obtain ⟨_, -, hvalid, -⟩ := compile_eq_ok_iff.1 h
  obtain ⟨name, hbasis, rfl⟩ := basis_of_compile_eq_ok h
  refine ⟨_, perform_hosts hbasis, ?lists, ?cut, ?defined⟩
  case lists =>
    rw [List.forall₂_map_right_iff, Basis.objects, List.forall₂_map_left_iff]
    exact List.forall₂_same.2 fun d hd => Basis.lists_replicaSet (b := i.basisNamed o name) hd
  case cut =>
    intro hnamespace
    refine HostLine.splitOn_print fun line hline => ?_
    obtain ⟨d, hd, rfl⟩ := List.mem_map.1 hline
    exact HostLine.lineBreak_not_mem_text hnamespace hd
  case defined =>
    intro hqualified
    have hcolumn : (·.qualifiedHost) ∘ HostLine.ofReplica (i.targetNamespace o) =
        (Bundle.addressing (i.targetNamespace o) i.spec).host := by
      funext d
      rw [Function.comp_apply, HostLine.ofReplica_eq, Bundle.addressing, if_pos hqualified]
      rfl
    have hperm := (Topology.deployments_perm (Topology.walk i.spec)).map
      (Bundle.addressing (i.targetNamespace o) i.spec).host
    rw [List.map_map] at hperm
    refine ⟨_, definesHosts_basisNamed hvalid o name, ?_⟩
    rw [List.map_map, hcolumn]
    exact hperm

/-- Where a compilation fails, the list fails with it by a check or for want of room, and else has a
line for each walked replica. -/
theorem perform_hosts_of_compile_eq_error (h : (i.compile o).outcome = .error fault) :
    ((∃ detail, fault = .validation detail) ∨ fault = .capacityOverflow) ∧
        i.perform o .hosts = .error fault ∨
      (∃ template d, fault = .emptyPodTemplate template d) ∧
        ∃ lines, i.perform o .hosts = .ok (HostLine.print lines) ∧
          lines.Perm ((Topology.walk i.spec).placements.map fun p =>
            .ofReplica (i.targetNamespace o) p.replica.deployment) := by
  rcases basis_of_compile_eq_error h with ⟨hfault, hbasis⟩ | ⟨hempty, name, hbasis⟩
  · exact .inl ⟨hfault, by rw [perform_hosts_eq_bind, hbasis, error_bind]⟩
  · have hperm := (Topology.deployments_perm (Topology.walk i.spec)).map
      (HostLine.ofReplica (i.targetNamespace o))
    rw [List.map_map] at hperm
    exact .inr ⟨hempty, _, perform_hosts hbasis, hperm⟩

end Installation

namespace Invocation

section Respond

variable {content output : String} {i : Installation} {o : Options} {kind : Task} {fault : Fault}
  (hread : Yaml.read? content >>= Installation.read? = some i)

include hread

theorem respond_of_perform_eq_ok (h : i.perform o kind = .ok output) (file : String) :
    respond (some content) (.task kind file o) = .success output := by
  simp only [respond, hread, h]

theorem respond_of_perform_eq_error (h : i.perform o kind = .error fault)
    (hfault : fault ≠ .capacityOverflow) (file : String) :
    respond (some content) (.task kind file o) = .failure fault.message := by
  simp only [respond, hread, h]

theorem respond_of_perform_eq_capacityOverflow (h : i.perform o kind = .error .capacityOverflow)
    (file : String) :
    respond (some content) (.task kind file o) =
      .breakdown Fault.capacityOverflow.message := by
  simp only [respond, hread, h]

end Respond

/-- The list of hosts agrees with the compilation of the same file under the same options. If that
succeeds, the list has one line for each of its StatefulSets, in their order, with the host of the
pod and the fully qualified name of the Service; under fully qualified names these are the hosts of
the cluster definition. The text is cut into these lines unless the namespace has line breaks. If
the compilation fails by a check, so does the list. If it fails by an empty pod template, the list
has a line for each walked replica. If it breaks off, so does the list. -/
theorem hosts_agree (content file : String) (o : Options) :
    (∀ output, respond (some content) (.task .compile file o) = .success output →
      ∃ i objects lines, Yaml.read? content >>= Installation.read? = some i ∧
        (i.compile o).outcome = .ok objects ∧ output = Yaml.printAll objects.documents ∧
        respond (some content) (.task .hosts file o) = .success (HostLine.print lines) ∧
        List.Forall₂ objects.Lists objects.statefulSets lines ∧
        ('\n' ∉ (i.targetNamespace o).toList →
          (HostLine.print lines).toList.splitOn '\n' = lines.map (·.text.toList) ++ [[]]) ∧
        (i.spec.defaults.qualifiedHosts = true →
          ∃ hosts, objects.DefinesHosts hosts ∧ (lines.map (·.qualifiedHost)).Perm hosts)) ∧
    ∀ i fault, Yaml.read? content >>= Installation.read? = some i →
      (i.compile o).outcome = .error fault →
      respond (some content) (.task .compile file o) = .failure fault.message ∧
        ((∃ detail, fault = .validation detail) ∧
            respond (some content) (.task .hosts file o) = .failure fault.message ∨
          (∃ template d, fault = .emptyPodTemplate template d) ∧
            ∃ lines, respond (some content) (.task .hosts file o) =
                .success (HostLine.print lines) ∧
              lines.Perm ((Topology.walk i.spec).placements.map fun p =>
                .ofReplica (i.targetNamespace o) p.replica.deployment)) ∨
      fault = .capacityOverflow ∧
        respond (some content) (.task .compile file o) = .breakdown fault.message ∧
        respond (some content) (.task .hosts file o) = .breakdown fault.message := by
  constructor
  case left =>
    intro output houtput
    -- a compilation that succeeds has read an installation
    cases hread : Yaml.read? content >>= Installation.read? with
    | none => simp [respond, hread] at houtput
    | some i =>
      cases hcompile : (i.compile o).outcome with
      | error fault =>
        have hperform := Installation.perform_compile_error hcompile
        by_cases hfault : fault = .capacityOverflow
        · subst hfault
          rw [respond_of_perform_eq_capacityOverflow hread hperform] at houtput
          cases houtput
        · rw [respond_of_perform_eq_error hread hperform hfault] at houtput
          cases houtput
      | ok objects =>
        rw [respond_of_perform_eq_ok hread (Installation.perform_compile_ok hcompile)] at houtput
        obtain ⟨lines, hhosts, hlists, hcut, hdefined⟩ :=
          Installation.perform_hosts_of_compile_eq_ok hcompile
        exact ⟨i, objects, lines, rfl, hcompile, (Response.success.inj houtput).symm,
          respond_of_perform_eq_ok hread hhosts file, hlists, hcut, hdefined⟩
  case right =>
    intro i fault hread hcompile
    have hperform := Installation.perform_compile_error hcompile
    rcases Installation.perform_hosts_of_compile_eq_error hcompile with
      ⟨⟨detail, rfl⟩ | rfl, hhosts⟩ | ⟨⟨template, d, rfl⟩, lines, hhosts, hperm⟩
    · exact .inl ⟨respond_of_perform_eq_error hread hperform (by simp) file,
        .inl ⟨⟨detail, rfl⟩, respond_of_perform_eq_error hread hhosts (by simp) file⟩⟩
    · exact .inr ⟨rfl, respond_of_perform_eq_capacityOverflow hread hperform file,
        respond_of_perform_eq_capacityOverflow hread hhosts file⟩
    · exact .inl ⟨respond_of_perform_eq_error hread hperform (by simp) file,
        .inr ⟨⟨template, d, rfl⟩, lines, respond_of_perform_eq_ok hread hhosts file, hperm⟩⟩

/-- The text of a file that declares one cluster and leaves everything else open. -/
def plainFile : String :=
  "metadata:\n  name: demo\nspec:\n  configuration:\n    clusters:\n    - name: main"

/-- The tree of that text. -/
def plainTree : Yaml.Tree :=
  let word (text : String) : Yaml.Tree := .scalar .none text .plain
  let one (key : String) (value : Yaml.Tree) : Yaml.Tree := .mapping .none [(word key, value)]
  .mapping .none [(word "metadata", one "name" (word "demo")),
    (word "spec", one "configuration" (one "clusters" (.list .none [one "name" (word "main")])))]

/-- What that file declares. -/
def plainInstallation : Installation :=
  .named "demo" (.ofClusters [⟨"main", .simplest, .unset⟩])

set_option maxRecDepth 10000 in
theorem read?_plainFile :
    Yaml.read? plainFile >>= Installation.read? = some plainInstallation := by
  have htree : Yaml.tokens? plainFile >>= Yaml.document? = some (plainTree, 0) := rfl
  have hread : Yaml.read? plainFile = plainTree.expand? 0 := by
    change (Yaml.tokens? plainFile >>= fun tokens => Yaml.document? tokens >>= _) = _
    rw [← bind_assoc, htree]
    rfl
  rw [hread]
  -- trees are expanded by recursion on their size, which does not unfold by itself
  simp only [plainTree, Yaml.Tree.expand?, Yaml.Tree.expandIn?, Yaml.Tree.expandEntries?,
    Yaml.Tree.expandItems?]
  rfl

theorem hosts_agree_plainFile :
    respond (some plainFile) (.task .hosts "demo.yaml" .none) =
      .success ("chi-240326-0-0-0\tchi-240326-0-0-0-0\t" ++
        "chi-service-240326-0-0-0.default.svc.cluster.local\n") := by
  have hplacements : (Topology.walk plainInstallation.spec).placements.map
      (·.replica.deployment) = ["240326-0-0-0"] := by
    rw [← Installation.deploymentId_unset]
    rfl
  have hdeployments : (Topology.walk plainInstallation.spec).deployments = ["240326-0-0-0"] :=
    List.perm_singleton.1 (hplacements ▸ Topology.deployments_perm _)
  obtain ⟨objects, hobjects⟩ := Installation.exists_compile_of_unset (o := .none)
    (i := plainInstallation) rfl rfl (by decide) (by decide)
  have hcompile := respond_of_perform_eq_ok read?_plainFile
    (Installation.perform_compile_ok hobjects) "demo.yaml"
  obtain ⟨i, objects', lines, hread, hobjects', -, hhosts, hlists, -, -⟩ :=
    (hosts_agree plainFile "demo.yaml" .none).1 _ hcompile
  obtain rfl := Option.some.inj (read?_plainFile.symm.trans hread)
  obtain ⟨name, -, rfl⟩ := Installation.objects_of_compile hobjects'
  have hsets : (plainInstallation.basisNamed .none name).objects.statefulSets =
      [(plainInstallation.basisNamed .none name).replicaSet "240326-0-0-0"] :=
    congrArg (List.map _) hdeployments
  rw [hsets] at hlists
  obtain ⟨line, rest, hline, hrest, rfl⟩ := List.forall₂_cons_left_iff.1 hlists
  obtain rfl := List.forall₂_nil_left_iff.1 hrest
  obtain ⟨service, hservice, hname⟩ := hline.served
  have hhost := hline.qualifiedHost service hservice hname
  rw [Basis.inNamespace_of_mem_services hservice, hname] at hhost
  rw [hhosts, HostLine.print, List.map_singleton, HostLine.text, hline.statefulSet, hline.podHost,
    hhost]
  rfl

end Invocation

end ShardManifest
