import ShardManifest.Installation.Spec
import ShardManifest.Proofs.JsonNodes
import ShardManifest.Proofs.PayloadNormalForm

/-!
# Specifications that are written and read back

A specification that was read from JSON is the same after it is written and read again. Each record
is written as a row, and read back member by member; what is left out stands for what it was. The
settings of a specification are of the kinds that a reader gives them: a whole number is unsigned
only where no signed word holds it, and a double is finite.

## Main definitions

- `Setting.Canonical`, `Configuration.Canonical`: settings as a reader leaves them
- `TemplateLibrary.PayloadsSurvive`: the parts of templates that pass through are read back

## Main results

- `Spec.canonical_of_read?`: what is read from JSON is canonical
- `Spec.read?_node_document`: a canonical specification is read back
- `Spec.survives_of_read?`, `Spec.survives_of_text`: what is read from JSON survives
-/

namespace ShardManifest

open Document Kubernetes

/-! ### Settings -/

/-- A setting of the kind that a reader gives it. -/
def Setting.Canonical : Setting → Prop
  | .unsigned n => Int64.maxValue.toInt < n.toNat
  | .float x => x.isFinite = true
  | _ => True

def Settings.Canonical (s : Settings) : Prop := ∀ e ∈ s.entries, e.2.Canonical

namespace Setting

theorem canonical_of_read? {d : Document} {v : Setting} (h : read? d.node = some v) :
    v.Canonical := by
  cases d with
  | null => cases h
  | bool b =>
    cases h
    trivial
  | integer n =>
    have hread : ofLiteral? (.integer n) = some v := h
    rw [ofLiteral?] at hread
    split at hread
    next =>
      cases hread
      trivial
    next =>
      split at hread
      next hrange =>
        cases hread
        have hpositive : 0 ≤ n := by
          rw [Int64.toInt_maxValue] at hrange
          omega
        have hsize : n.toNat < UInt64.size := by omega
        rw [Canonical, UInt64.toNat_ofNat_of_lt' hsize, Int.toNat_of_nonneg hpositive]
        exact hrange.1
      next => cases hread
  | float x =>
    have hread : ofLiteral? (if x.isFinite then .float x else .null) = some v := h
    split at hread
    next hfinite =>
      cases hread
      exact hfinite
    next => cases hread
  | text s =>
    cases h
    trivial
  | list items =>
    rw [node_list] at h
    simp only [read?, Option.any_none, Bool.false_eq_true, if_false, Option.map_eq_some_iff] at h
    obtain ⟨texts, -, rfl⟩ := h
    trivial
  | mapping members => cases h

theorem read?_node_document {v : Setting} (h : v.Canonical) : read? v.document.node = some v := by
  cases v with
  | bool b => rfl
  | integer n =>
    change ofLiteral? (.integer n.toInt) = some (integer n)
    rw [ofLiteral?, if_pos ⟨n.minValue_le_toInt, n.toInt_le⟩, Int64.ofInt_toInt]
  | unsigned n =>
    -- signed words are tried first, so it matters that this one is larger
    change ofLiteral? (.integer n.toNat) = some (unsigned n)
    have hlarge : Int64.maxValue.toInt < n.toNat := h
    have hsize : (n.toNat : Int) < UInt64.size := Int.ofNat_lt.2 n.toNat_lt
    rw [ofLiteral?, if_neg fun hsigned => absurd hsigned.2 (Int.not_le.2 hlarge),
      if_pos ⟨hlarge, hsize⟩, Int.toNat_natCast, UInt64.ofNat_toNat]
  | float x =>
    have hfinite : x.isFinite = true := h
    change ofLiteral? (if x.isFinite then .float x else .null) = some (float x)
    rw [if_pos hfinite]
    rfl
  | text s => rfl
  | list items =>
    have hitems : ((items.map Document.text).map Document.node).mapM item? = some items := by
      rw [List.map_map]
      exact mapM_map_eq_some fun s _ => rfl
    rw [document, node_list, read?, hitems]
    rfl

end Setting

namespace Settings

theorem canonical_empty : Settings.Canonical .empty := by
  intro e he
  cases he

theorem canonical_of_read? {d : Document} {s : Settings} (h : read? d.node = some s) :
    s.Canonical := by
  simp only [read?, Option.bind_eq_bind, Option.bind_eq_some_iff, Option.pure_def,
    Option.some.injEq] at h
  obtain ⟨entries, hentries, found, hfound, rfl⟩ := h
  obtain ⟨ms, rfl⟩ := exists_of_entries?_node hentries
  intro e he
  obtain ⟨m, hm, hread⟩ := exists_of_mem_mapM hfound (Dictionary.mem_of_mem_entries_ofList he)
  obtain ⟨d, hd⟩ := exists_node_of_mem_membersOf hm
  rw [hd, Option.map_eq_some_iff] at hread
  obtain ⟨v, hv, rfl⟩ := hread
  exact Setting.canonical_of_read? hv

theorem member_eq_present (name : String) (s : Settings) :
    member name s = present [(name, entered Setting.document s)] := by
  rw [member, entered]
  by_cases h : s.entries = [] <;> simp [Dictionary.isEmpty, present, h]

theorem orDefault?_members {s : Settings} {row : Row} {name : String} (h : s.Canonical)
    (hfield : row.fields.lookup name = some (entered Setting.document s)) :
    row.members.orDefault? name .empty read? = some s := by
  rw [Members.orDefault?, Row.lookup_members, hfield, entered]
  by_cases hentries : s.entries = []
  · have hempty : s = .empty := Dictionary.ext hentries
    simp [hempty, Dictionary.empty]
  · have hread := mapM_membersOf_entries fun e he => Setting.read?_node_document (h e he)
    simp [hentries, read?, entries?_node_mapping, hread, Dictionary.ofList_entries]

end Settings

/-! ### Selections and clusters -/

namespace Selection

def row (s : Selection) : Row where
  fields := [("podTemplate", s.podTemplate.map .text),
    ("volumeClaimTemplate", s.claimTemplate.map .text)]
  nodup := by simp

theorem document_eq_row (s : Selection) : s.document = s.row.document := by
  rw [document, whenSet_eq_present, whenSet_eq_present, present_append]
  rfl

theorem read?_node_document (s : Selection) : read? s.document.node = some s := by
  rw [document_eq_row, read?, Row.members?_node_document]
  simp only [Option.bind_eq_bind, Option.bind_some]
  rw [Row.optional?_members rfl optional?_node_text, Row.optional?_members rfl optional?_node_text]
  rfl

end Selection

theorem LayoutKind.read?_node_name (k : LayoutKind) : read? (text k.name).node = some k := by
  cases k <;> rfl

namespace ReplicaSpec

def row (r : ReplicaSpec) : Row where
  fields := [("port", r.port.map fun n => .integer n.toNat),
    ("deployment", some r.selection.document)]
  nodup := by simp

theorem document_eq_row (r : ReplicaSpec) : r.document = r.row.document := by
  rw [document, whenSet_eq_present, always_eq_present, present_append]
  rfl

theorem read?_node_document (r : ReplicaSpec) : read? r.document.node = some r := by
  rw [document_eq_row, read?, Row.members?_node_document]
  simp only [Option.bind_eq_bind, Option.bind_some]
  rw [Row.optional?_members rfl optional?_node_word16,
    Row.orDefault?_members rfl (Selection.read?_node_document _)]
  rfl

end ReplicaSpec

namespace ShardSpec

def row (s : ShardSpec) : Row where
  fields := [("weight", s.weight.map fun n => .integer n.toNat),
    ("internalReplication", s.internalReplication.map .bool),
    ("deployment", some s.selection.document),
    ("replicasCount", s.replicasCount.map fun n => .integer n.toNat),
    ("replicas", listed ReplicaSpec.document s.replicas)]
  nodup := by simp

theorem document_eq_row (s : ShardSpec) : s.document = s.row.document := by
  rw [document, whenSet_eq_present, whenSet_eq_present, always_eq_present, whenSet_eq_present,
    whenAny_eq_present, present_append, present_append, present_append, present_append]
  rfl

theorem read?_node_document (s : ShardSpec) : read? s.document.node = some s := by
  rw [document_eq_row, read?, Row.members?_node_document]
  simp only [Option.bind_eq_bind, Option.bind_some]
  rw [Row.optional?_members rfl optional?_node_word32,
    Row.optional?_members rfl optional?_node_bool,
    Row.orDefault?_members rfl (Selection.read?_node_document _),
    Row.optional?_members rfl optional?_node_word32,
    Row.orDefault?_members_listed rfl fun r _ => ReplicaSpec.read?_node_document r]
  rfl

end ShardSpec

namespace Layout

def row (l : Layout) : Row where
  fields := [("type", some (.text l.kind.name)),
    ("shardsCount", l.shardsCount.map fun n => .integer n.toNat),
    ("replicasCount", l.replicasCount.map fun n => .integer n.toNat),
    ("shards", listed ShardSpec.document l.shards)]
  nodup := by simp

theorem document_eq_row (l : Layout) : l.document = l.row.document := by
  rw [document, always_eq_present, whenSet_eq_present, whenSet_eq_present, whenAny_eq_present,
    present_append, present_append, present_append]
  rfl

theorem read?_node_document (l : Layout) : read? l.document.node = some l := by
  rw [document_eq_row, read?, Row.members?_node_document]
  simp only [Option.bind_eq_bind, Option.bind_some]
  rw [Row.orDefault?_members rfl (LayoutKind.read?_node_name _),
    Row.optional?_members rfl optional?_node_word32, Row.optional?_members rfl optional?_node_word32,
    Row.orDefault?_members_listed rfl fun s _ => ShardSpec.read?_node_document s]
  rfl

end Layout

namespace ClusterSpec

def row (c : ClusterSpec) : Row where
  fields := [("name", some (.text c.name)), ("layout", some c.layout.document),
    ("deployment", some c.selection.document)]
  nodup := by simp

theorem read?_node_document (c : ClusterSpec) : read? c.document.node = some c := by
  have hdocument : c.document = c.row.document := rfl
  rw [hdocument, read?, Row.members?_node_document]
  simp only [Option.bind_eq_bind, Option.bind_some]
  rw [Row.required?_members rfl (text?_node_text _), Row.orDefault?_members rfl (Layout.read?_node_document _),
    Row.orDefault?_members rfl (Selection.read?_node_document _)]
  rfl

end ClusterSpec

/-! ### Configuration and defaults -/

namespace ZookeeperNode

def row (z : ZookeeperNode) : Row where
  fields := [("host", some (.text z.host)), ("port", z.port.map fun n => .integer n.toNat)]
  nodup := by simp

theorem document_eq_row (z : ZookeeperNode) : z.document = z.row.document := by
  rw [document, always_eq_present, whenSet_eq_present, present_append]
  rfl

theorem read?_node_document (z : ZookeeperNode) : read? z.document.node = some z := by
  rw [document_eq_row, read?, Row.members?_node_document]
  simp only [Option.bind_eq_bind, Option.bind_some]
  rw [Row.required?_members rfl (text?_node_text _), Row.optional?_members rfl optional?_node_word16]
  rfl

end ZookeeperNode

namespace Zookeeper

def row (z : Zookeeper) : Row where
  fields := [("nodes", listed ZookeeperNode.document z.nodes)]
  nodup := by simp

theorem document_eq_row (z : Zookeeper) : z.document = z.row.document := by
  rw [document, whenAny_eq_present]
  rfl

theorem read?_node_document (z : Zookeeper) : read? z.document.node = some z := by
  rw [document_eq_row, read?, Row.members?_node_document]
  simp only [Option.bind_eq_bind, Option.bind_some]
  rw [Row.orDefault?_members_listed rfl fun n _ => ZookeeperNode.read?_node_document n]
  rfl

end Zookeeper

/-- A configuration whose settings are of the kinds that a reader gives them. -/
structure Configuration.Canonical (c : Configuration) : Prop where
  users : c.users.Canonical
  profiles : c.profiles.Canonical
  quotas : c.quotas.Canonical
  settings : c.settings.Canonical

namespace Configuration

theorem canonical_empty : Canonical .empty :=
  ⟨Settings.canonical_empty, Settings.canonical_empty, Settings.canonical_empty,
    Settings.canonical_empty⟩

theorem canonical_of_read? {d : Document} {c : Configuration} (h : read? d.node = some c) :
    c.Canonical := by
  simp only [read?, Option.bind_eq_bind, Option.bind_eq_some_iff, Option.pure_def,
    Option.some.injEq] at h
  obtain ⟨ms, hms, _, -, users, husers, profiles, hprofiles, quotas, hquotas, settings, hsettings,
    _, -, rfl⟩ := h
  have hmember : ∀ {name : String} {s : Settings},
      ms.orDefault? name .empty Settings.read? = some s → s.Canonical := by
    intro name s hs
    rw [Members.orDefault?] at hs
    split at hs
    next =>
      cases hs
      exact Settings.canonical_empty
    next n hn =>
      obtain ⟨e, rfl⟩ := exists_node_of_members? hms hn
      exact Settings.canonical_of_read? hs
  exact ⟨hmember husers, hmember hprofiles, hmember hquotas, hmember hsettings⟩

def row (c : Configuration) : Row where
  fields := [("zookeeper", some c.zookeeper.document),
    ("users", entered Setting.document c.users),
    ("profiles", entered Setting.document c.profiles),
    ("quotas", entered Setting.document c.quotas),
    ("settings", entered Setting.document c.settings),
    ("clusters", listed ClusterSpec.document c.clusters)]
  nodup := by simp

theorem document_eq_row (c : Configuration) : c.document = c.row.document := by
  rw [document, always_eq_present, Settings.member_eq_present, Settings.member_eq_present,
    Settings.member_eq_present, Settings.member_eq_present, whenAny_eq_present, present_append,
    present_append, present_append, present_append, present_append]
  rfl

theorem read?_node_document {c : Configuration} (h : c.Canonical) :
    read? c.document.node = some c := by
  rw [document_eq_row, read?, Row.members?_node_document]
  simp only [Option.bind_eq_bind, Option.bind_some]
  rw [Row.orDefault?_members rfl (Zookeeper.read?_node_document _),
    Settings.orDefault?_members h.users rfl, Settings.orDefault?_members h.profiles rfl,
    Settings.orDefault?_members h.quotas rfl, Settings.orDefault?_members h.settings rfl,
    Row.orDefault?_members_listed rfl fun c _ => ClusterSpec.read?_node_document c]
  rfl

end Configuration

namespace Defaults

def row (d : Defaults) : Row where
  fields := [("replicasUseFQDN", some (.bool d.qualifiedHosts)),
    ("deployment", some d.selection.document)]
  nodup := by simp

theorem read?_node_document (d : Defaults) : read? d.document.node = some d := by
  have hdocument : d.document = d.row.document := rfl
  rw [hdocument, read?, Row.members?_node_document]
  simp only [Option.bind_eq_bind, Option.bind_some]
  rw [Row.orDefault?_members rfl (bool?_node_bool _),
    Row.orDefault?_members rfl (Selection.read?_node_document _)]
  rfl

end Defaults

/-! ### Templates -/

theorem whenTexts_eq_present (name : String) (t : Texts) :
    whenTexts name t = present [(name, entered .text t)] := by
  rw [whenTexts, entered]
  by_cases h : t.entries = [] <;> simp [Dictionary.isEmpty, present, textsDocument, h]

theorem orDefault?_members_texts {t : Texts} {row : Row} {name : String}
    (hfield : row.fields.lookup name = some (entered .text t)) :
    row.members.orDefault? name .empty Node.textMap? = some t := by
  rw [Members.orDefault?, Row.lookup_members, hfield, entered]
  by_cases hentries : t.entries = []
  · have hempty : t = .empty := Dictionary.ext hentries
    simp [hempty, Dictionary.empty]
  · have hread := mapM_membersOf_entries fun e (_ : e ∈ t.entries) => text?_node_text e.2
    simp [hentries, Node.textMap?, entries?_node_mapping, hread, Dictionary.ofList_entries]

/-- The containers and volumes of a declared template are read back. -/
structure PodDeclaration.PayloadsSurvive (p : PodDeclaration) : Prop where
  containers : ∀ c ∈ p.containers, Container.read? c.document.node = some c
  volumes : ∀ v ∈ p.volumes, Volume.read? v.document.node = some v

namespace PodDeclaration

def row (p : PodDeclaration) : Row where
  fields := [("name", some (.text p.name)),
    ("containers", some (.list (p.containers.map Container.document))),
    ("volumes", listed Volume.document p.volumes)]
  nodup := by simp

theorem document_eq_row (p : PodDeclaration) : p.document = p.row.document := by
  rw [document, always_eq_present, always_eq_present, whenAny_eq_present, present_append,
    present_append]
  rfl

theorem read?_node_document {p : PodDeclaration} (h : p.PayloadsSurvive) :
    read? p.document.node = some p := by
  rw [document_eq_row, read?, Row.members?_node_document]
  simp only [Option.bind_eq_bind, Option.bind_some]
  rw [Row.required?_members rfl (text?_node_text _),
    Row.orDefault?_members rfl (listOf?_node_list h.containers),
    Row.orDefault?_members_listed rfl h.volumes]
  rfl

end PodDeclaration

namespace DeclaredClaimMetadata

def row (d : DeclaredClaimMetadata) : Row where
  fields := [("name", d.name.map .text), ("labels", entered .text d.labels)]
  nodup := by simp

theorem document_eq_row (d : DeclaredClaimMetadata) : d.document = d.row.document := by
  rw [document, whenSet_eq_present, whenTexts_eq_present, present_append]
  rfl

theorem read?_node_document (d : DeclaredClaimMetadata) : read? d.document.node = some d := by
  rw [document_eq_row, read?, Row.members?_node_document]
  simp only [Option.bind_eq_bind, Option.bind_some]
  rw [Row.optional?_members rfl optional?_node_text, orDefault?_members_texts rfl]
  rfl

end DeclaredClaimMetadata

namespace DeclaredClaim

def row (d : DeclaredClaim) : Row where
  fields := [("metadata", some d.metadata.document), ("spec", some d.spec.document)]
  nodup := by simp

theorem read?_node_document {d : DeclaredClaim}
    (h : ClaimSpec.read? d.spec.document.node = some d.spec) :
    read? d.document.node = some d := by
  have hdocument : d.document = d.row.document := rfl
  rw [hdocument, read?, Row.members?_node_document]
  simp only [Option.bind_eq_bind, Option.bind_some]
  rw [Row.orDefault?_members rfl (DeclaredClaimMetadata.read?_node_document _),
    Row.orDefault?_members rfl h]
  rfl

end DeclaredClaim

namespace ClaimDeclaration

def row (c : ClaimDeclaration) : Row where
  fields := [("name", some (.text c.name)), ("template", some c.claim.document)]
  nodup := by simp

theorem read?_node_document {c : ClaimDeclaration}
    (h : ClaimSpec.read? c.claim.spec.document.node = some c.claim.spec) :
    read? c.document.node = some c := by
  have hdocument : c.document = c.row.document := rfl
  rw [hdocument, read?, Row.members?_node_document]
  simp only [Option.bind_eq_bind, Option.bind_some]
  rw [Row.required?_members rfl (text?_node_text _),
    Row.required?_members rfl (DeclaredClaim.read?_node_document h)]
  rfl

end ClaimDeclaration

theorem exists_of_orDefault?_listOf? {α : Type} {ms : Members} {name : String}
    {read : Node → Option α} {l : List α} {a : α}
    (h : ms.orDefault? name [] (Node.listOf? read) = some l) (ha : a ∈ l) :
    ∃ n, read n = some a := by
  rw [Members.orDefault?] at h
  split at h
  next =>
    cases h
    cases ha
  next n _ =>
    rw [Node.listOf?, Option.bind_eq_bind, Option.bind_eq_some_iff] at h
    obtain ⟨items, -, hitems⟩ := h
    obtain ⟨item, -, hitem⟩ := exists_of_mem_mapM hitems ha
    exact ⟨item, hitem⟩

theorem PodDeclaration.payloadsSurvive_of_read? {n : Node} {p : PodDeclaration}
    (h : read? n = some p) (hephemeral : ∀ v ∈ p.volumes, v.EphemeralSurvives) :
    p.PayloadsSurvive := by
  simp only [read?, Option.bind_eq_bind, Option.bind_eq_some_iff, Option.pure_def,
    Option.some.injEq] at h
  obtain ⟨ms, -, name, -, containers, hcontainers, volumes, hvolumes, rfl⟩ := h
  constructor
  · intro c hc
    obtain ⟨m, hm⟩ := exists_of_orDefault?_listOf? hcontainers hc
    exact Container.read?_node_document hm
  · intro v hv
    obtain ⟨m, hm⟩ := exists_of_orDefault?_listOf? hvolumes hv
    exact Volume.read?_node_document hm (hephemeral v hv)

theorem ClaimDeclaration.payload_survives_of_read? {n : Node} {c : ClaimDeclaration}
    (h : read? n = some c) : ClaimSpec.read? c.claim.spec.document.node = some c.claim.spec := by
  simp only [read?, Members.required?, DeclaredClaim.read?, Option.bind_eq_bind,
    Option.bind_eq_some_iff, Option.pure_def, Option.some.injEq] at h
  obtain ⟨_, -, name, -, claim, ⟨_, -, ms, -, metadata, -, spec, hspec, rfl⟩, rfl⟩ := h
  rw [Members.orDefault?] at hspec
  split at hspec
  next =>
    cases hspec
    exact ClaimSpec.read?_node_empty
  next => exact ClaimSpec.read?_node_document hspec

/-- The parts of a library that pass through are read back. -/
structure TemplateLibrary.PayloadsSurvive (l : TemplateLibrary) : Prop where
  pods : ∀ p ∈ l.pods, p.PayloadsSurvive
  claims : ∀ c ∈ l.claims, ClaimSpec.read? c.claim.spec.document.node = some c.claim.spec

namespace TemplateLibrary

def row (l : TemplateLibrary) : Row where
  fields := [("podTemplates", listed PodDeclaration.document l.pods),
    ("volumeClaimTemplates", listed ClaimDeclaration.document l.claims)]
  nodup := by simp

theorem document_eq_row (l : TemplateLibrary) : l.document = l.row.document := by
  rw [document, whenAny_eq_present, whenAny_eq_present, present_append]
  rfl

theorem read?_node_document {l : TemplateLibrary} (h : l.PayloadsSurvive) :
    read? l.document.node = some l := by
  rw [document_eq_row, read?, Row.members?_node_document]
  simp only [Option.bind_eq_bind, Option.bind_some]
  rw [Row.orDefault?_members_listed rfl fun p hp => PodDeclaration.read?_node_document (h.pods p hp),
    Row.orDefault?_members_listed rfl fun c hc =>
      ClaimDeclaration.read?_node_document (h.claims c hc)]
  rfl

end TemplateLibrary

/-! ### Specifications -/

namespace Spec

def row (s : Spec) : Row where
  fields := [("defaults", some s.defaults.document),
    ("configuration", some s.configuration.document), ("templates", some s.templates.document)]
  nodup := by simp

theorem read?_node_document {s : Spec} (hconfiguration : s.configuration.Canonical)
    (hpayloads : s.templates.PayloadsSurvive) : read? s.document.node = some s := by
  have hdocument : s.document = s.row.document := rfl
  rw [hdocument, read?, Row.members?_node_document]
  simp only [Option.bind_eq_bind, Option.bind_some]
  rw [Row.orDefault?_members rfl (Defaults.read?_node_document _),
    Row.orDefault?_members rfl (Configuration.read?_node_document hconfiguration),
    Row.orDefault?_members rfl (TemplateLibrary.read?_node_document hpayloads)]
  rfl

theorem canonical_of_read? {d : Document} {s : Spec} (h : read? d.node = some s) :
    s.configuration.Canonical := by
  simp only [read?, Option.bind_eq_bind, Option.bind_eq_some_iff, Option.pure_def,
    Option.some.injEq] at h
  obtain ⟨ms, hms, _, -, configuration, hconfiguration, _, -, rfl⟩ := h
  rw [Members.orDefault?] at hconfiguration
  -- a configuration that is left out has no settings at all
  split at hconfiguration
  next =>
    cases hconfiguration
    exact Configuration.canonical_empty
  next n hn =>
    obtain ⟨e, rfl⟩ := exists_node_of_members? hms hn
    exact Configuration.canonical_of_read? hconfiguration

theorem payloadsSurvive_of_read? {n : Node} {s : Spec} (h : read? n = some s)
    (hephemeral : ∀ p ∈ s.templates.pods, ∀ v ∈ p.volumes, v.EphemeralSurvives) :
    s.templates.PayloadsSurvive := by
  simp only [read?, Option.bind_eq_bind, Option.bind_eq_some_iff, Option.pure_def,
    Option.some.injEq] at h
  obtain ⟨_, -, _, -, _, -, templates, htemplates, rfl⟩ := h
  rw [Members.orDefault?] at htemplates
  split at htemplates
  next =>
    cases htemplates
    exact ⟨by simp [TemplateLibrary.empty], by simp [TemplateLibrary.empty]⟩
  next m _ =>
    simp only [TemplateLibrary.read?, Option.bind_eq_bind, Option.bind_eq_some_iff,
      Option.pure_def, Option.some.injEq] at htemplates
    obtain ⟨ms, -, pods, hpods, claims, hclaims, rfl⟩ := htemplates
    constructor
    · intro p hp
      obtain ⟨m, hm⟩ := exists_of_orDefault?_listOf? hpods hp
      exact PodDeclaration.payloadsSurvive_of_read? hm (hephemeral p hp)
    · intro c hc
      obtain ⟨m, hm⟩ := exists_of_orDefault?_listOf? hclaims hc
      exact ClaimDeclaration.payload_survives_of_read? hm

/-- What is read from a text of JSON survives. -/
theorem survives_of_text {text : String} {s : Spec} (hread : (Json.read? text).bind read? = some s)
    (hephemeral : ∀ p ∈ s.templates.pods, ∀ v ∈ p.volumes, v.EphemeralSurvives) :
    read? s.document.node = some s := by
  obtain ⟨n, hn, hread⟩ := Option.bind_eq_some_iff.1 hread
  obtain ⟨j, rfl⟩ := Json.isDocument_read? text n hn
  exact read?_node_document (canonical_of_read? hread) (payloadsSurvive_of_read? hread hephemeral)

/-- A specification that was read from JSON is read back from what is written of it, and is written
the same again, as long as the claims that volumes make for their pods are read back. -/
theorem survives_of_read? {j : Document} {s : Spec} (hread : read? j.node = some s)
    (hephemeral : ∀ p ∈ s.templates.pods, ∀ v ∈ p.volumes, v.EphemeralSurvives) :
    read? s.document.node = some s ∧ (read? s.document.node).map document = some s.document := by
  have hback : read? s.document.node = some s :=
    read?_node_document (canonical_of_read? hread) (payloadsSurvive_of_read? hread hephemeral)
  refine ⟨hback, ?_⟩
  rw [hback, Option.map_some]

/-- A specification in JSON, with settings of every kind, members that are null, and a volume that
makes a claim for its pod. -/
def spelled : Document :=
  .mapping
    [("configuration", .mapping
      [("users", .mapping
          [("alice/id", .integer 18446744073709551615), ("alice/networks/ip", .list []),
            ("alice/password", .text "1.50"), ("alice/quota", .integer (-5)),
            ("alice/readonly", .bool true), ("alice/weight", .float ⟨4609434218613702656⟩)]),
        ("clusters", .list
          [.mapping [("name", .text "main"), ("layout", .mapping [("shardsCount", .null)])]])]),
      ("templates", .mapping
        [("podTemplates", .list
          [.mapping
            [("name", .text "pod"), ("containers", .list [.mapping [("stdin", .bool true)]]),
              ("volumes", .list
                [.mapping
                  [("name", .text "scratch"),
                    ("ephemeral", .mapping
                      [("volumeClaimTemplate", .mapping
                        [("metadata", .mapping
                          [("creationTimestamp", .text "2024-03-26t01:00:00+01:00")])])])]])]])])]

/-- The specification that is spelled so. -/
def ofSpelled : Spec where
  defaults := .plain
  configuration := { Configuration.empty with
    users := .ofList
      [("alice/id", .unsigned 18446744073709551615), ("alice/networks/ip", .list []),
        ("alice/password", .text "1.50"), ("alice/quota", .integer (-5)),
        ("alice/readonly", .bool true), ("alice/weight", .float ⟨4609434218613702656⟩)]
    clusters := [⟨"main", .simplest, .unset⟩] }
  templates :=
    { pods :=
        [{ name := "pod"
           containers := [⟨"", none, none, none, .ofList [("stdin", .bool true)]⟩]
           volumes :=
            [⟨"scratch", none, .ofList
              [("ephemeral", .mapping
                [("volumeClaimTemplate", .mapping
                  [("metadata", .mapping
                      [("creationTimestamp", .text "2024-03-26T00:00:00Z")]),
                    ("spec", .mapping [])])])]⟩] }]
      claims := [] }

theorem survives_spelled :
    read? spelled.node = some ofSpelled ∧ read? ofSpelled.document.node = some ofSpelled := by
  have hread : read? spelled.node = some ofSpelled := by rfl
  refine ⟨hread, (survives_of_read? hread ?_).1⟩
  intro p hp v hv d hd
  obtain rfl := List.mem_singleton.1 hp
  obtain rfl := List.mem_singleton.1 hv
  cases hd
  rfl

end Spec

end ShardManifest
