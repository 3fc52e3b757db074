import ShardManifest.Proofs.ServedTopology
import ShardManifest.Proofs.SettingsContent
import ShardManifest.Proofs.SharedConfiguration

/-!
# What servers are told about the coordination service

The hosts of the coordination service are free text, and the path of the queue holds the name of the
installation, which is free text as well. Both are character data, and so none of it can imitate a
tag: whatever is declared, the document is read back as the members in their order and the one path.
Its text therefore tells the installation and the members, each with the port at which it is reached.

## Main definitions

- `ServedCoordination`: a coordination service as servers are told about it
- `Zookeeper.served`: what they are to be told about a declared one
- `Xml.Element.coordination?`: decodes the document of a coordination service

## Main results

- `ServedCoordination.coordination?_root`: decoding is a left inverse of writing
- `Fragment.read?_zookeeper`: how the document is read
- `Fragment.zookeeper_decodes`: it is decoded as what was declared, and its text tells all of it
-/

namespace ShardManifest

/-- A member of the coordination service as servers are told about it. -/
structure ServedMember where
  host : String
  port : Nat
deriving DecidableEq, Repr

/-- The members of the coordination service, and where the queue of distributed statements is. -/
structure ServedCoordination where
  members : List ServedMember
  queue : String
deriving DecidableEq, Repr

/-- A member is reached at the standard port unless it names another. -/
def ZookeeperNode.served (z : ZookeeperNode) : ServedMember :=
  ⟨z.host, z.port.elim 2181 UInt16.toNat⟩

/-- What servers are to be told about a coordination service. -/
def Zookeeper.served (installation : String) (z : Zookeeper) : ServedCoordination :=
  ⟨z.nodes.map ZookeeperNode.served, "/clickhouse/" ++ installation ++ "/task_queue/ddl"⟩

/-! ### Decoding -/

namespace Xml.Element

def member? : Element → Option ServedMember
  | branch "node" [leaf "host" host, leaf "port" port] => do return ⟨host, ← port.toNat?⟩
  | _ => none

/-- Decodes the document of a coordination service. -/
def coordination? : Element → Option ServedCoordination
  | branch "yandex" [branch "zookeeper" members, branch "distributed_ddl" [leaf "path" path]] => do
    return ⟨← members.mapM member?, path⟩
  | _ => none

end Xml.Element

open Xml Element

def ServedMember.element (m : ServedMember) : Element :=
  .branch "node" [.leaf "host" m.host, .leaf "port" (toString m.port)]

namespace ServedCoordination

/-- What stands below the root of the document. -/
def elements (c : ServedCoordination) : List Element :=
  [.branch "zookeeper" (c.members.map ServedMember.element),
    .branch "distributed_ddl" [.leaf "path" c.queue]]

/-- The document as it is read. -/
def root (c : ServedCoordination) : Element := .branch "yandex" c.elements

theorem member?_element (m : ServedMember) : m.element.member? = some m := by
  simp [ServedMember.element, member?, Nat.toNat?_repr]

/-- Whatever is written is decoded, with every host and the path as they were. -/
theorem coordination?_root (c : ServedCoordination) : c.root.coordination? = some c := by
  have hmembers : (c.members.map ServedMember.element).mapM member? = some c.members :=
    Document.mapM_map_eq_some fun m _ => member?_element m
  simp [root, elements, coordination?, hmembers]

theorem asRead_root {c : ServedCoordination} (h : c.members ≠ []) (depth : Nat) :
    c.root.asRead depth = c.root := by
  have hmember : ∀ m : ServedMember, ∀ depth, m.element.asRead depth = m.element := fun _ _ => rfl
  have hmembers : ∀ depth, (Element.branch "zookeeper" (c.members.map ServedMember.element)).asRead
      depth = .branch "zookeeper" (c.members.map ServedMember.element) :=
    asRead_branch (by simpa using h) (List.forall_mem_map.2 fun m _ => hmember m)
  have hqueue : ∀ depth, (Element.branch "distributed_ddl" [.leaf "path" c.queue]).asRead depth =
      .branch "distributed_ddl" [.leaf "path" c.queue] := fun _ => rfl
  have hne : c.elements ≠ [] := List.cons_ne_nil _ _
  exact asRead_branch hne
    (List.forall_mem_cons.2 ⟨hmembers, List.forall_mem_singleton.2 hqueue⟩) depth

end ServedCoordination

/-! ### The document of a declared service -/

namespace Fragment

variable {z z' : Zookeeper} {installation installation' : String}

theorem zookeeperElement_eq (z : ZookeeperNode) : zookeeperElement z = z.served.element := by
  cases hport : z.port <;> simp [zookeeperElement, ZookeeperNode.served, ServedMember.element,
    hport, defaultZookeeperPort]

theorem elements_served (installation : String) (z : Zookeeper) :
    (z.served installation).elements =
      [.branch "zookeeper" (z.nodes.map zookeeperElement),
        .branch "distributed_ddl" [.leaf "path" (Names.statementQueue installation)]] := by
  rw [ServedCoordination.elements, Zookeeper.served, List.map_map,
    List.map_congr_left fun n _ => zookeeperElement_eq n]
  rfl

theorem zookeeper_eq_document (h : z.nodes ≠ []) (installation : String) :
    zookeeper installation z = document (z.served installation).elements := by
  rw [zookeeper, if_neg (by simpa using h), elements_served]

/-- The document of a coordination service with members is read as it is written. -/
theorem read?_zookeeper (h : z.nodes ≠ []) (installation : String) :
    read? (zookeeper installation z) = some (z.served installation).root := by
  have hnamed := named_zookeeper installation z
  rw [← elements_served] at hnamed
  have hspells := spells_document hnamed
  have hmembers : (z.served installation).members ≠ [] := by simpa [Zookeeper.served] using h
  have hread : (Element.branch rootElement (z.served installation).elements).asRead 0 =
      (z.served installation).root := ServedCoordination.asRead_root hmembers 0
  rw [hread] at hspells
  rw [zookeeper_eq_document h]
  exact read?_eq_some_iff.2 hspells

/-- The text of a document with members tells all that servers are told. -/
theorem zookeeper_eq_iff_served_eq (h : z.nodes ≠ []) :
    zookeeper installation' z' = zookeeper installation z ↔
      z'.served installation' = z.served installation := by
  constructor
  · intro htext
    have h' : z'.nodes ≠ [] := by
      rw [Ne, ← zookeeper_eq_empty_iff, htext, zookeeper_eq_empty_iff]
      exact h
    -- both are read as one tree, and the tree is decoded as either service
    have hroot := read?_zookeeper h' installation'
    rw [htext, read?_zookeeper h, Option.some.injEq] at hroot
    have hdecoded := ServedCoordination.coordination?_root (z'.served installation')
    rw [← hroot, ServedCoordination.coordination?_root] at hdecoded
    exact (Option.some.inj hdecoded).symm
  · intro hserved
    have hmembers : z'.nodes.map ZookeeperNode.served = z.nodes.map ZookeeperNode.served :=
      congrArg ServedCoordination.members hserved
    have h' : z'.nodes ≠ [] := by
      intro hnone
      rw [hnone, List.map_nil, eq_comm, List.map_eq_nil_iff] at hmembers
      exact h hmembers
    rw [zookeeper_eq_document h, zookeeper_eq_document h', hserved]

/-- Without members there is no document. With members the document is decoded as the declared ones
in their order, each with its host and the port at which it is reached, and as the path of the queue
of its installation. Two documents have one text exactly if the installations and the members are the
same. -/
theorem zookeeper_decodes (installation : String) (z : Zookeeper) :
    (z.nodes = [] → zookeeper installation z = "") ∧
    (z.nodes ≠ [] →
      (∃ root, read? (zookeeper installation z) = some root ∧ root.coordination? =
        some ⟨z.nodes.map fun n => ⟨n.host, n.port.elim 2181 UInt16.toNat⟩,
          "/clickhouse/" ++ installation ++ "/task_queue/ddl"⟩) ∧
      ∀ installation' z', zookeeper installation' z' = zookeeper installation z ↔
        installation' = installation ∧
          z'.nodes.map ZookeeperNode.served = z.nodes.map ZookeeperNode.served) := by
  refine ⟨zookeeper_eq_empty_iff.2, fun h => ⟨?decodes, fun installation' z' => ?text⟩⟩
  case decodes =>
    exact ⟨_, read?_zookeeper h installation, ServedCoordination.coordination?_root _⟩
  case text =>
    rw [zookeeper_eq_iff_served_eq h, Zookeeper.served, Zookeeper.served,
      ServedCoordination.mk.injEq, String.append_left_inj, String.append_right_inj, and_comm]

/-- Members whose hosts imitate markup, entities and lines, with and without ports. -/
def markedUp : Zookeeper :=
  ⟨[⟨"</host></node>", none⟩, ⟨"&lt;\n\"'&", some 0⟩, ⟨"", some 65535⟩]⟩

theorem zookeeper_decodes_markedUp :
    zookeeper "a</path>&amp;" ⟨[]⟩ = "" ∧ markedUp.nodes ≠ [] ∧
    (∃ root, read? (zookeeper "a</path>&amp;" markedUp) = some root ∧ root.coordination? =
      some ⟨[⟨"</host></node>", 2181⟩, ⟨"&lt;\n\"'&", 0⟩, ⟨"", 65535⟩],
        "/clickhouse/a</path>&amp;/task_queue/ddl"⟩) ∧
    zookeeper "a</path>&amp;" ⟨[⟨"zk", some 2181⟩]⟩ ≠ zookeeper "a</path>&amp;" markedUp := by
  have hne : markedUp.nodes ≠ [] := by decide
  obtain ⟨⟨root, hroot, hdecoded⟩, htext⟩ := (zookeeper_decodes "a</path>&amp;" markedUp).2 hne
  have hnone := (zookeeper_decodes "a</path>&amp;" ⟨[]⟩).1 rfl
  refine ⟨hnone, hne, ⟨root, hroot, hdecoded⟩, fun h => ?_⟩
  exact absurd ((htext _ _).1 h).2 (by decide)

end Fragment

end ShardManifest
