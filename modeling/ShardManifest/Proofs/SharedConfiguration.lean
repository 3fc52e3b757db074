import ShardManifest.Proofs.BundleFiles
import ShardManifest.Proofs.OutcomeAgreement
import ShardManifest.Proofs.ReplicaObjects

/-!
# Editing what servers share

The coordination service and the settings of an installation become files of its shared ConfigMap,
each from a source of its own. StatefulSets mount these files by name. So an edit that leaves the
files in place reaches nothing but the content of the files whose source was edited, and no pod has
to be started again.

## Main definitions

- `Installation.withShared`: an installation whose servers share another configuration
- `Configuration.Changes`: the files whose source differs between two configurations
- `Objects.SameButFiles`: objects that differ in the content of some shared files only

## Main results

- `Bundle.get?_files_compose_eq_of_unchanged`: a file depends on its own source only
- `Basis.sameButFiles_objects`: the objects of a basis with other shared files of the same names
- `Installation.compile_withShared`: an edit that keeps the files changes their content only
-/

namespace ShardManifest

open Kubernetes

/-- A file whose own source differs between two configurations. -/
inductive Configuration.Changes (c c' : Configuration) : String → Prop
  | zookeeper (h : c.zookeeper.nodes ≠ c'.zookeeper.nodes) : Changes c c' "zookeeper.xml"
  | users (h : c.users ≠ c'.users) : Changes c c' "users.xml"
  | profiles (h : c.profiles ≠ c'.profiles) : Changes c c' "profiles.xml"
  | quotas (h : c.quotas ≠ c'.quotas) : Changes c c' "quotas.xml"
  | settings (h : c.settings ≠ c'.settings) : Changes c c' "settings.xml"

theorem Configuration.Changes.ne_remoteServers {c c' : Configuration} {filename : String}
    (h : c.Changes c' filename) : filename ≠ "remote_servers.xml" := by
  cases h <;> decide

/-- Objects that are the same, but for the content of shared files that may have changed. -/
structure Objects.SameButFiles (changed : String → Prop) (before after : Objects) : Prop where
  deployments : after.deployments = before.deployments
  services : after.services = before.services
  statefulSets : after.statefulSets = before.statefulSets
  macros : after.configMaps.tail = before.configMaps.tail
  shared : ∃ common data, before.configMaps.head? = some common ∧
    after.configMaps.head? = some { common with data } ∧ data.keys = common.data.keys ∧
    ∀ filename, ¬changed filename → data.get? filename = common.data.get? filename

/-- A specification whose servers share another configuration; the clusters stay. -/
def Spec.withShared (s : Spec) (c : Configuration) : Spec :=
  { s with configuration := { c with clusters := s.configuration.clusters } }

/-! ### Files and their sources -/

theorem Fragment.zookeeper_eq_empty_iff {installation : String} {z : Zookeeper} :
    zookeeper installation z = "" ↔ z.nodes = [] := by
  rw [zookeeper]
  by_cases h : z.nodes = []
  · simp [h]
  · simp [h, Xml.document_ne_empty]

namespace Bundle

variable {installation inNamespace filename : String} {s : Spec} {c : Configuration}

theorem fragment_iff_of_unchanged {α : Type} {c c' : Configuration} {file filename content : String}
    {source source' : α} (h : ¬c.Changes c' filename)
    (hchanges : source ≠ source' → c.Changes c' file) (fragment : α → String) :
    filename = file ∧ content = fragment source' ↔ filename = file ∧ content = fragment source := by
  refine and_congr_right fun hfile => ?_
  have hsource : source = source' := by
    by_contra hne
    exact h (hfile ▸ hchanges hne)
  rw [hsource]

/-- The fragment of a file is the same where its own source is. -/
theorem mem_fragments_withShared_iff (t : Topology)
    (h : ¬s.configuration.Changes c filename) (content : String) :
    (filename, content) ∈ fragments installation inNamespace (s.withShared c) t ↔
      (filename, content) ∈ fragments installation inNamespace s t := by
  simp only [fragments, unclustered, List.mem_cons, List.not_mem_nil, or_false, Prod.mk.injEq]
  -- the clusters are the same; then one source after the other
  refine or_congr_right (or_congr ?zookeeper (or_congr ?users (or_congr ?profiles
    (or_congr ?quotas ?settings))))
  case zookeeper =>
    exact fragment_iff_of_unchanged h .zookeeper fun nodes =>
      Fragment.zookeeper installation ⟨nodes⟩
  case users =>
    exact fragment_iff_of_unchanged h .users fun users => (Fragment.settings _ users).value
  case profiles =>
    exact fragment_iff_of_unchanged h .profiles fun profiles =>
      (Fragment.settings _ profiles).value
  case quotas =>
    exact fragment_iff_of_unchanged h .quotas fun quotas => (Fragment.settings _ quotas).value
  case settings =>
    exact fragment_iff_of_unchanged h .settings fun settings =>
      (Fragment.settings _ settings).value

/-- A file depends on its own source only. -/
theorem get?_files_compose_eq_of_unchanged (t : Topology)
    (h : ¬s.configuration.Changes c filename) :
    (compose installation inNamespace (s.withShared c) t).value.files.get? filename =
      (compose installation inNamespace s t).value.files.get? filename := by
  apply Option.ext
  intro content
  rw [get?_files_compose_eq_some_iff, get?_files_compose_eq_some_iff,
    mem_fragments_withShared_iff t h]

end Bundle

/-! ### The objects of a basis -/

namespace Basis

/-- A basis with other shared files. -/
def withShared (b : Basis) (shared : Bundle) : Basis := { b with shared }

variable {b : Basis} {shared : Bundle}

theorem selectsAlike_withShared (b : Basis) (shared : Bundle) :
    b.SelectsAlike (b.withShared shared) := ⟨rfl, rfl, rfl⟩

theorem replicaObjects_withShared (h : shared.files.keys = b.shared.files.keys) (d : String) :
    (b.withShared shared).replicaObjects d = b.replicaObjects d :=
  replicaObjects_congr rfl rfl rfl rfl h rfl rfl

/-- Other shared files of the same names change the content of these files only. -/
theorem sameButFiles_objects {changed : String → Prop}
    (hkeys : shared.files.keys = b.shared.files.keys)
    (hdata : ∀ filename, ¬changed filename →
      shared.files.get? filename = b.shared.files.get? filename) :
    b.objects.SameButFiles changed (b.withShared shared).objects where
  deployments := rfl
  services := rfl
  statefulSets := by
    have hsets : (b.withShared shared).replicaSet = b.replicaSet := by
      funext d
      exact congrArg ReplicaObjects.statefulSet (replicaObjects_withShared hkeys d)
    change b.deployments.map (b.withShared shared).replicaSet = b.deployments.map b.replicaSet
    rw [hsets]
  macros := rfl
  shared := ⟨b.commonMap, shared.files, rfl, rfl, hkeys, hdata⟩

end Basis

/-! ### Compilations -/

namespace Installation

/-- An installation whose servers share another configuration; the clusters stay. -/
def withShared (i : Installation) (c : Configuration) : Installation :=
  { i with spec := i.spec.withShared c }

/-- The files with content that all replicas of an installation with a name share. -/
def sharedFiles (i : Installation) (o : Options) (name : String) : List String :=
  (i.basisNamed o name).shared.files.keys

theorem basisNamed_withShared (i : Installation) (c : Configuration) (o : Options)
    (name : String) :
    (i.withShared c).basisNamed o name = (i.basisNamed o name).withShared
      (Bundle.compose name (i.targetNamespace o) (i.spec.withShared c)
        (Topology.walk i.spec)).value := rfl

/-- An edit of what servers share that keeps the files in place has the same outcome. Where objects
come out, all of them are the same, but for the content of the files whose own source was
edited. -/
theorem compile_withShared (i : Installation) (c : Configuration) (o : Options)
    (hfiles : ∀ name, i.metadata.name = some name →
      (i.withShared c).sharedFiles o name = i.sharedFiles o name) :
    OutcomesAgree (Objects.SameButFiles (i.spec.configuration.Changes c))
      (i.compile o).outcome ((i.withShared c).compile o).outcome := by
  refine outcomesAgree_of_selectsAlike rfl rfl rfl ?alike ?objects
  case alike =>
    intro name
    rw [basisNamed_withShared]
    exact Basis.selectsAlike_withShared _ _
  case objects =>
    intro name hname
    have hkeys := hfiles name (Option.filter_eq_some_iff.1 hname).1
    rw [sharedFiles, sharedFiles, basisNamed_withShared] at hkeys
    rw [basisNamed_withShared]
    exact Basis.sameButFiles_objects hkeys fun filename hunchanged =>
      Bundle.get?_files_compose_eq_of_unchanged _ hunchanged

/-- The pair with a coordination service of one member. -/
def coordinated (host : String) : Installation :=
  (named "demo" Spec.pair).withShared { Configuration.empty with zookeeper := ⟨[⟨host, none⟩]⟩ }

theorem sharedFiles_coordinated (host host' name : String) :
    (coordinated host).sharedFiles .none name = (coordinated host').sharedFiles .none name := by
  have hfragments : ∀ host, Bundle.fragments name ((coordinated host).targetNamespace .none)
      (coordinated host).spec (Topology.walk (coordinated host).spec) =
        (File.remoteServers, Fragment.remoteServers (Topology.walk Spec.pair) .service) ::
          (File.zookeeper, Fragment.zookeeper name ⟨[⟨host, none⟩]⟩) ::
            (Bundle.unclustered name .empty).tail := fun _ => rfl
  have hservice : ∀ host, Fragment.zookeeper name ⟨[⟨host, none⟩]⟩ ≠ "" := by
    intro host hempty
    exact absurd (Fragment.zookeeper_eq_empty_iff.1 hempty) (List.cons_ne_nil _ _)
  have hfiles : ∀ host filename, filename ∈ (coordinated host).sharedFiles .none name ↔
      Fragment.remoteServers (Topology.walk Spec.pair) .service ≠ "" ∧
          File.remoteServers = filename ∨
        File.zookeeper = filename ∨
        ∃ e ∈ (Bundle.unclustered name .empty).tail, e.2 ≠ "" ∧ e.1 = filename := by
    intro host filename
    rw [sharedFiles, basisNamed, Basis.shared_derived, Bundle.mem_keys_files_compose, hfragments,
      List.exists_mem_cons_iff, List.exists_mem_cons_iff, and_iff_right (hservice host)]
  refine eq_of_ascending_of_mem_iff (Dictionary.keys_pairwise _) (Dictionary.keys_pairwise _) ?_
  intro filename
  exact (hfiles host filename).trans (hfiles host' filename).symm

theorem compile_coordinated :
    ∃ before after, ((coordinated "zk-0").compile .none).outcome = .ok before ∧
      ((coordinated "zk-1").compile .none).outcome = .ok after ∧
      after.statefulSets = before.statefulSets ∧
      ∃ common data, before.configMaps.head? = some common ∧
        after.configMaps.head? = some { common with data } ∧
        data.get? "remote_servers.xml" = common.data.get? "remote_servers.xml" := by
  have hcompiles : ∀ host, ∃ objects, ((coordinated host).compile .none).outcome = .ok objects :=
    fun host => exists_compile_of_unset (i := coordinated host) rfl rfl
      (by decide : Topology.HasRoom 2) selection_pair
  obtain ⟨before, hbefore⟩ := hcompiles "zk-0"
  obtain ⟨after, hafter⟩ := hcompiles "zk-1"
  have hedit := compile_withShared (coordinated "zk-0") (coordinated "zk-1").spec.configuration
    .none fun name _ => sharedFiles_coordinated "zk-1" "zk-0" name
  have hsame := hedit.related hbefore hafter
  obtain ⟨common, data, hcommon, hdata, -, hfile⟩ := hsame.shared
  exact ⟨before, after, hbefore, hafter, hsame.statefulSets, common, data, hcommon, hdata,
    hfile _ fun h => h.ne_remoteServers rfl⟩

end Installation

end ShardManifest
