import ShardManifest.Proofs.BundleFiles
import ShardManifest.Proofs.Placements
import ShardManifest.Proofs.Xml.CharacterData
import ShardManifest.Proofs.Xml.Layout

/-!
# Names of replicas as DNS labels

Kubernetes wants the names of StatefulSets and Services, and the host names of pods, to be labels of
domain names. The names of clusters and templates are free text, but none of it gets into an
identifier: the templates enter by six digits of a digest, the clusters by their positions. So the
names that are built around an identifier are labels whatever the user writes, and they stand in the
cluster definition as they are.

## Main definitions

- `IsDnsLabel`: a label that begins with a letter and ends in a digit, of at most 51 characters
- `IsDecimal`: a numeral without leading zeros
- `SpellsIdentifier`: the four parts of an identifier
- `Topology.FitsWords`: no row of a topology has more entries than a word of 32 bits can count
- `Topology.NamesReplica`: an identifier spells its replica, and the names made of it are labels

## Main results

- `isDecimal_numeral`, `spellsIdentifier_deploymentId`: the parts of an identifier
- `endsLabel_deploymentId`: with a letter in front, an identifier is a label
- `Fragment.host_infix_remoteServers`: the hosts in the text of the cluster definition
- `Topology.namesReplica_of_mem_deployments`: the names of every replica of a walk are labels
-/

namespace ShardManifest

/-- The characters of a label: lower-case letters, digits and hyphens. -/
def isLabelChar (c : Char) : Bool := c.isLower || c.isDigit || c = '-'

/-- A hexadecimal digit in lower case. -/
def isHexDigit (c : Char) : Bool := c.isDigit || ('a' ≤ c && c ≤ 'f')

/-- A label that begins with a letter and ends in a digit, well within the 63 characters that a label
may have. -/
structure IsDnsLabel (name : String) : Prop where
  chars : ∀ c ∈ name.toList, isLabelChar c = true
  first : ∃ c, name.toList.head? = some c ∧ c.isLower = true
  last : ∃ c, name.toList.getLast? = some c ∧ c.isDigit = true
  length : name.length ≤ 51

/-- A numeral without leading zeros. -/
structure IsDecimal (numeral : List Char) : Prop where
  nonempty : numeral ≠ []
  digits : ∀ c ∈ numeral, c.isDigit = true
  leading : numeral.head? = some '0' → numeral = ['0']

/-- An identifier has four parts with hyphens between them: the first six of the 64 digits of a
fingerprint, and its coordinates in decimal. -/
structure SpellsIdentifier (f : Fingerprint) (cluster shard replica : Nat) (d : String) : Prop where
  parts : d.toList.splitOn '-' = [f.hex.toList.take 6, (toString cluster).toList,
    (toString shard).toList, (toString replica).toList]
  length : f.hex.length = 64
  digits : ∀ c ∈ f.hex.toList, isHexDigit c = true
  coordinates : ∀ numeral ∈ (d.toList.splitOn '-').tail, IsDecimal numeral

/-! ### Numerals and identifiers -/

theorem isDecimal_numeral (n : Nat) : IsDecimal (toString n).toList := by
  have hdigits : (toString n).toList = Nat.toDigits 10 n := by
    rw [Nat.toString_eq_repr, Nat.toList_repr]
  constructor
  case nonempty =>
    rw [hdigits]
    exact Nat.toDigits_ne_nil
  case digits => exact fun _ => isDigit_of_mem_numeral
  case leading =>
    intro hzero
    rw [hdigits] at hzero
    rw [eq_zero_of_head?_toDigits hzero]
    rfl

theorem spellsIdentifier_deploymentId (s : Selection) (cluster shard replica : Nat) :
    SpellsIdentifier (.of s) cluster shard replica (deploymentId (.of s) cluster shard replica) := by
  have hparts : (deploymentId (.of s) cluster shard replica).toList.splitOn '-' =
      [(Fingerprint.of s).short.toList, (toString cluster).toList, (toString shard).toList,
        (toString replica).toList] := by
    rw [toList_deploymentId,
      List.splitOn_append_cons_self_of_not_mem (Fingerprint.hyphen_not_mem_short s),
      List.splitOn_append_cons_self_of_not_mem (hyphen_not_mem_numeral cluster),
      List.splitOn_append_cons_self_of_not_mem (hyphen_not_mem_numeral shard),
      List.splitOn_eq_singleton (hyphen_not_mem_numeral replica)]
  constructor
  case parts =>
    rw [hparts, Fingerprint.short, String.toList_ofList]
    rfl
  case length => exact Sha256.length_toList_hex _
  case digits => exact Sha256.forall_mem_hex (by decide) _
  case coordinates =>
    rw [hparts, List.tail_cons]
    simp only [List.forall_mem_cons]
    exact ⟨isDecimal_numeral cluster, isDecimal_numeral shard, isDecimal_numeral replica, by simp⟩

/-! ### Labels -/

/-- What a label may go on with: characters of labels, the last one a digit. -/
structure EndsLabel (bound : Nat) (text : String) : Prop where
  chars : ∀ c ∈ text.toList, isLabelChar c = true
  last : ∃ c, text.toList.getLast? = some c ∧ c.isDigit = true
  length : text.length ≤ bound

/-- What ends a label still does so behind other characters of labels. -/
theorem EndsLabel.append {bound k : Nat} {front text : String} (h : EndsLabel bound text)
    (hfront : ∀ c ∈ front.toList, isLabelChar c = true) (hlength : front.length ≤ k) :
    EndsLabel (k + bound) (front ++ text) where
  chars := by
    rw [String.toList_append]
    exact List.forall_mem_append.2 ⟨hfront, h.chars⟩
  last := by
    obtain ⟨c, hc, hdigit⟩ := h.last
    refine ⟨c, ?_, hdigit⟩
    rw [String.toList_append, List.getLast?_append, hc]
    rfl
  length := by
    rw [String.length_append]
    exact Nat.add_le_add hlength h.length

theorem EndsLabel.isDnsLabel {bound : Nat} {front text : String} (h : EndsLabel bound text)
    (hfront : ∀ c ∈ front.toList, isLabelChar c = true)
    (hfirst : ∃ c, front.toList.head? = some c ∧ c.isLower = true)
    (hlength : front.length + bound ≤ 51) : IsDnsLabel (front ++ text) := by
  obtain ⟨hchars, hlast, hbound⟩ := h.append hfront le_rfl
  refine ⟨hchars, ?first, hlast, hbound.trans hlength⟩
  case first =>
    obtain ⟨c, hc, hlower⟩ := hfirst
    refine ⟨c, ?_, hlower⟩
    rw [String.toList_append, List.head?_append, hc]
    rfl

theorem isLabelChar_of_mem_numeral (n : Nat) : ∀ c ∈ (toString n).toList, isLabelChar c = true := by
  intro c hc
  simp [isLabelChar, isDigit_of_mem_numeral hc]

theorem length_numeral_word {n : Nat} (h : n < UInt32.size) : (toString n).length ≤ 10 := by
  have hpower : UInt32.size ≤ Nat.pow 10 10 := by decide
  rw [← String.length_toList]
  exact length_numeral_le (by decide) (lt_of_lt_of_le h hpower)

theorem endsLabel_numeral {n : Nat} (h : n < UInt32.size) : EndsLabel 10 (toString n) where
  chars := isLabelChar_of_mem_numeral n
  last := by
    obtain ⟨hne, hdigits, -⟩ := isDecimal_numeral n
    exact ⟨_, List.getLast?_eq_some_getLast hne, hdigits _ (List.getLast_mem hne)⟩
  length := length_numeral_word h

/-- With a letter in front, an identifier is a label, whatever is selected. -/
theorem endsLabel_deploymentId (s : Selection) {cluster shard replica : Nat}
    (hcluster : cluster < UInt32.size) (hshard : shard < UInt32.size)
    (hreplica : replica < UInt32.size) :
    EndsLabel 39 (deploymentId (.of s) cluster shard replica) := by
  have hhyphen : ∀ c ∈ "-".toList, isLabelChar c = true := List.all_eq_true.1 (by decide)
  have hshort : ∀ c ∈ (Fingerprint.of s).short.toList, isLabelChar c = true :=
    Fingerprint.forall_mem_short (by decide) s
  have hlength : (Fingerprint.of s).short.length ≤ 6 :=
    (String.length_toList.symm.trans (Fingerprint.length_short s)).le
  -- built from the end: three times a numeral with a hyphen in front, then six digits
  have hlast := (endsLabel_numeral hreplica).append (k := 1) hhyphen (by decide)
  have hlower := (hlast.append (isLabelChar_of_mem_numeral shard)
    (length_numeral_word hshard)).append (k := 1) hhyphen (by decide)
  have hupper := (hlower.append (isLabelChar_of_mem_numeral cluster)
    (length_numeral_word hcluster)).append (k := 1) hhyphen (by decide)
  have hall := hupper.append hshort hlength
  rw [deploymentId]
  simp only [String.append_assoc]
  exact hall

namespace Names

variable {d : String} (h : EndsLabel 39 d)

include h

theorem isDnsLabel_statefulSet : IsDnsLabel (statefulSet d) :=
  h.isDnsLabel (List.all_eq_true.1 (by decide)) ⟨'c', by decide⟩ (by decide)

theorem isDnsLabel_replicaService : IsDnsLabel (replicaService d) :=
  h.isDnsLabel (List.all_eq_true.1 (by decide)) ⟨'c', by decide⟩ (by decide)

theorem isDnsLabel_podHost : IsDnsLabel (podHost d) := by
  have hzero : EndsLabel 2 "-0" :=
    ⟨List.all_eq_true.1 (by decide), ⟨'0', by decide⟩, by decide⟩
  have hend := hzero.append h.chars h.length
  rw [podHost, String.append_assoc]
  exact hend.isDnsLabel (List.all_eq_true.1 (by decide)) ⟨'c', by decide⟩ (by decide)

end Names

/-! ### Hosts in the cluster definition -/

theorem Xml.escapeChar_of_isLabelChar {c : Char} (h : isLabelChar c = true) :
    escapeChar c = [c] := by
  unfold escapeChar
  split
  case h_6 => rfl
  all_goals exact absurd h (by decide)

theorem IsDnsLabel.escape_eq {name : String} (h : IsDnsLabel name) : Xml.escape name = name :=
  Xml.escape_eq_self fun c hc => Xml.escapeChar_of_isLabelChar (h.chars c hc)

/-- What follows the name of the Service in a host. -/
def Addressing.domain : Addressing → String
  | service => ""
  | qualified inNamespace => Names.namespaceDomain inNamespace

theorem Addressing.host_eq (a : Addressing) (d : String) :
    a.host d = Names.replicaService d ++ a.domain := by
  cases a with
  | service => exact String.append_empty.symm
  | qualified inNamespace => rfl

namespace Fragment

open Xml

/-- The host of every replica stands in the text of the cluster definition. -/
theorem host_infix_remoteServers (a : Addressing) {t : Topology} {p : Placement}
    (hp : p ∈ t.placements) :
    ("<host>" ++ escape (a.host p.replica.deployment) ++ "</host>").toList <:+:
      (remoteServers t a).toList := by
  obtain ⟨hcluster, hshard, hreplica⟩ := Topology.mem_placements_iff.1 hp
  have hsome : t.clusters ≠ [] := List.ne_nil_of_mem hcluster
  -- from the leaf outwards: replica, shard, cluster, definition and root
  have hleaf : ("<host>" ++ escape (a.host p.replica.deployment) ++ "</host>").toList <:+:
      ((Element.leaf "host" (a.host p.replica.deployment)).layout 5).toList :=
    ⟨(Writer.indent 5).toList, ['\n'], by simp [Element.layout]⟩
  have hinreplica : ((Element.leaf "host" (a.host p.replica.deployment)).layout 5).toList <:+:
      ((replicaElement a p.replica).layout 4).toList :=
    layout_infix_layout_branch List.mem_cons_self 4
  have hinshard : ((replicaElement a p.replica).layout 4).toList <:+:
      ((shardElement a p.shard).layout 3).toList :=
    layout_infix_layout_branch
      (List.mem_cons_of_mem _ (List.mem_cons_of_mem _ (List.mem_map_of_mem hreplica))) 3
  have hincluster : ((shardElement a p.shard).layout 3).toList <:+:
      ((clusterElement a p.cluster).layout 2).toList :=
    layout_infix_layout_branch (List.mem_map_of_mem hshard) 2
  have hinservers : ((clusterElement a p.cluster).layout 2).toList <:+:
      ((Element.branch "remote_servers" (t.clusters.map (clusterElement a))).layout 1).toList :=
    layout_infix_layout_branch (List.mem_map_of_mem hcluster) 1
  rw [remoteServers, if_neg (by simpa using hsome), document_eq_layout]
  exact hleaf.trans <| hinreplica.trans <| hinshard.trans <| hincluster.trans <|
    hinservers.trans <| layout_infix_layout_branch (List.mem_singleton_self _) 0

end Fragment

/-! ### Every replica of a walk -/

namespace Topology

/-- No row of the topology has more entries than a word of 32 bits can count. -/
structure FitsWords (t : Topology) : Prop where
  clusters : t.clusters.length < UInt32.size
  shards : ∀ c ∈ t.clusters, c.shards.length < UInt32.size
  replicas : ∀ c ∈ t.clusters, ∀ s ∈ c.shards, s.replicas.length < UInt32.size

theorem FitsWords.coordinates {t : Topology} (h : t.FitsWords) {c sh r : Nat} {p : Placement}
    (hp : t.at? c sh r = some p) :
    c < UInt32.size ∧ sh < UInt32.size ∧ r < UInt32.size := by
  obtain ⟨hcluster, hshard, hreplica⟩ := at?_eq_some_iff.1 hp
  have hc := List.mem_of_getElem? hcluster
  have hs := List.mem_of_getElem? hshard
  obtain ⟨hclt, -⟩ := List.getElem?_eq_some_iff.1 hcluster
  obtain ⟨hshlt, -⟩ := List.getElem?_eq_some_iff.1 hshard
  obtain ⟨hrlt, -⟩ := List.getElem?_eq_some_iff.1 hreplica
  exact ⟨hclt.trans h.clusters, hshlt.trans (h.shards _ hc), hrlt.trans (h.replicas _ hc _ hs)⟩

/-- An identifier of a topology spells the digest and the coordinates of one of its replicas. The
names that are made of it are labels, and the name of the Service stands as it is in the cluster
definition, where nothing but a namespace is left to escape. -/
structure NamesReplica (t : Topology) (d : String) : Prop where
  identifier : ∃ c sh r p, t.at? c sh r = some p ∧ p.replica.deployment = d ∧
    SpellsIdentifier p.replica.fingerprint c sh r d
  statefulSet : IsDnsLabel (Names.statefulSet d)
  podHost : IsDnsLabel (Names.podHost d)
  service : IsDnsLabel (Names.replicaService d)
  escaped : Xml.escape (Names.replicaService d) = Names.replicaService d
  hosts : ∀ a : Addressing,
    ("<host>" ++ Names.replicaService d ++ Xml.escape a.domain ++ "</host>").toList <:+:
      (Fragment.remoteServers t a).toList

/-- Whatever the user calls clusters and templates, the names that are made of an identifier are
labels. -/
theorem namesReplica_of_mem_deployments {s : Spec} (h : (walk s).FitsWords) {d : String}
    (hd : d ∈ (walk s).deployments) : (walk s).NamesReplica d := by
  obtain ⟨p, hp, rfl⟩ := mem_deployments_iff.1 hd
  obtain ⟨c, sh, r, hat⟩ := mem_placements_iff_at?.1 hp
  obtain ⟨hc, hsh, hr⟩ := h.coordinates hat
  have hdeployment := deployment_of_at?_walk hat
  have hends : EndsLabel 39 p.replica.deployment := by
    rw [hdeployment]
    exact endsLabel_deploymentId _ hc hsh hr
  have hservice := Names.isDnsLabel_replicaService hends
  constructor
  case identifier =>
    refine ⟨c, sh, r, p, hat, rfl, ?_⟩
    rw [hdeployment]
    exact spellsIdentifier_deploymentId p.replica.selection c sh r
  case statefulSet => exact Names.isDnsLabel_statefulSet hends
  case podHost => exact Names.isDnsLabel_podHost hends
  case service => exact hservice
  case escaped => exact hservice.escape_eq
  case hosts =>
    intro a
    have hhost := Fragment.host_infix_remoteServers a hp
    rw [Addressing.host_eq, Xml.escape_append, hservice.escape_eq, ← String.append_assoc] at hhost
    exact hhost

/-- The walk of a specification whose names are full of markup. -/
theorem namesReplica_markedUp :
    let s := Spec.ofClusters [⟨"<x>", ⟨.standard, none, some 2, []⟩, ⟨some "Ü/<&>_", none⟩⟩]
    let d := deploymentId (.of ⟨some "Ü/<&>_", none⟩) 0 0 1
    (walk s).FitsWords ∧ d ∈ (walk s).deployments ∧ (walk s).NamesReplica d := by
  intro s d
  have hfits : (walk s).FitsWords := by
    constructor
    case clusters => decide
    case shards => decide
    case replicas => decide
  have hd : d ∈ (walk s).deployments :=
    mem_deployments_iff.2 ⟨_, mem_placements_iff_at?.2 ⟨0, 0, 1, rfl⟩, rfl⟩
  exact ⟨hfits, hd, namesReplica_of_mem_deployments hfits hd⟩

end Topology

end ShardManifest
