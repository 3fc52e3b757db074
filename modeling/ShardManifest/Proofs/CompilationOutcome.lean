import ShardManifest.Compilation
import ShardManifest.Proofs.ObjectOutcomes

/-!
# The outcome of a compilation

A compilation checks the name of the installation, then the names of its clusters, makes room for
the list of deployments, and then builds all objects. The outcome follows: which objects, or which
fault.

## Main definitions

- `Installation.basisNamed`: the basis of an installation that has a name
- `Basis.objects`: the objects of a basis
- `Spec.SelectsEmptyPod`: a replica selects a declared pod template without containers

## Main results

- `Installation.compile_eq_ok_iff`, `Installation.compile_eq_error_iff`: the two outcomes
- `Installation.compile_outcome`: which installations fail, and how
-/

namespace ShardManifest

/-- A replica with an identifier selects a pod template whose last declaration has no containers. -/
def Spec.SelectsEmptyPod (s : Spec) (template deployment : String) : Prop :=
  ∃ p ∈ (Topology.walk s).placements, p.replica.deployment = deployment ∧
    p.replica.selection.podTemplate = some template ∧
    ∃ declared, s.templates.pod? template = some declared ∧ declared.containers = []

theorem Spec.SelectsEmptyPod.mem_deployments {s : Spec} {template d : String}
    (h : s.SelectsEmptyPod template d) : d ∈ (Topology.walk s).deployments := by
  obtain ⟨p, hp, hd, -⟩ := h
  exact Topology.mem_deployments_iff.2 ⟨p, hp, hd⟩

namespace Basis

def objects (b : Basis) : Objects where
  services := b.services.value
  configMaps := b.commonMap :: b.deployments.map b.macrosMap
  statefulSets := b.deployments.map b.replicaSet
  deployments := b.deployments

section Derived

variable (installation inNamespace defaultImage : String) {s : Spec}

/-- Where digests tell selections, the resolved selection of a replica is its own, without the
names that are not declared. -/
theorem resolved_derived (hs : s.DigestsTellSelections) {p : Placement}
    (hp : p ∈ (Topology.walk s).placements) :
    (derived installation inNamespace defaultImage s).resolved p.replica.deployment =
      p.replica.selection.declaredIn (TemplateIndex.ofLibrary s.templates).value := by
  rw [resolved, selection?_derived installation inNamespace defaultImage hs hp]
  rfl

theorem selectsEmptyPod_derived_iff (hs : s.DigestsTellSelections) {template d : String}
    (hd : d ∈ (Topology.walk s).deployments) :
    (derived installation inNamespace defaultImage s).SelectsEmptyPod template d ↔
      s.SelectsEmptyPod template d := by
  obtain ⟨p, hp, rfl⟩ := Topology.mem_deployments_iff.1 hd
  rw [SelectsEmptyPod, resolved_derived installation inNamespace defaultImage hs hp,
    templates_derived, TemplateIndex.get?_pods_ofLibrary]
  constructor
  · rintro ⟨hpod, content, hcontent, hempty⟩
    obtain ⟨declared, hdeclared, rfl⟩ := Option.map_eq_some_iff.1 hcontent
    exact ⟨p, hp, rfl, (Option.filter_eq_some_iff.1 hpod).1, declared, hdeclared, hempty⟩
  · rintro ⟨q, hq, hqp, hpod, declared, hdeclared, hempty⟩
    -- the replica that selects an empty template is the one at hand, since it has its identifier
    obtain rfl := Topology.eq_of_deployment_eq hq hp hqp
    have hget : (TemplateIndex.ofLibrary s.templates).value.pods.get? template =
        some declared.content := by
      rw [TemplateIndex.get?_pods_ofLibrary, hdeclared]
      rfl
    have hcontains := Dictionary.contains_iff.2 ⟨_, hget⟩
    exact ⟨Option.filter_eq_some_iff.2 ⟨hpod, hcontains⟩, declared.content, by simp [hdeclared],
      hempty⟩

/-- The fault of the StatefulSets is that of the least identifier that selects an empty pod
template. -/
theorem statefulSets_derived_eq_error_iff (hs : s.DigestsTellSelections) {template d : String} :
    (derived installation inNamespace defaultImage s).statefulSets.outcome =
        .error (.emptyPodTemplate template d) ↔
      s.SelectsEmptyPod template d ∧
        ∀ template' d', s.SelectsEmptyPod template' d' → d = d' ∨ BytewiseLT d d' := by
  have hiff : ∀ {template d}, d ∈ (Topology.walk s).deployments →
      ((derived installation inNamespace defaultImage s).SelectsEmptyPod template d ↔
        s.SelectsEmptyPod template d) :=
    selectsEmptyPod_derived_iff installation inNamespace defaultImage hs
  have hfirst := exists_first_iff_least (Topology.deployments_ascending s)
    (P := fun d' => ∃ template', s.SelectsEmptyPod template' d') (a := d)
  rw [statefulSets_eq_error_iff (consistent_derived _ _ _ _), deployments_derived]
  constructor
  · rintro ⟨before, d₀, after, template₀, hsplit, hbefore, hempty, hfault⟩
    obtain ⟨rfl, rfl⟩ := Fault.emptyPodTemplate.inj hfault
    have hd : d ∈ (Topology.walk s).deployments := hsplit ▸ by simp
    obtain ⟨-, hleast⟩ := hfirst.1 ⟨before, after, hsplit, by
      rintro d' hd' ⟨template', hempty'⟩
      exact hbefore d' hd' template' ((hiff hempty'.mem_deployments).2 hempty')⟩
    refine ⟨(hiff hd).1 hempty, fun template' d' hempty' => ?_⟩
    rw [bytewiseLT_iff]
    exact hleast d' hempty'.mem_deployments ⟨template', hempty'⟩
  · rintro ⟨hempty, hleast⟩
    have hd := hempty.mem_deployments
    obtain ⟨before, after, hsplit, hbefore⟩ := hfirst.2 ⟨hd, by
      rintro d' - ⟨template', hempty'⟩
      rw [← bytewiseLT_iff]
      exact hleast template' d' hempty'⟩
    refine ⟨before, d, after, template, hsplit, ?_, (hiff hd).2 hempty, rfl⟩
    intro d' hd' template' hempty'
    have hmem' : d' ∈ (Topology.walk s).deployments := hsplit ▸ List.mem_append_left _ hd'
    exact hbefore d' hd' ⟨template', (hiff hmem').1 hempty'⟩

end Derived

end Basis

/-! ### Checks -/

theorem Spec.validate_eq_ok_iff {s : Spec} :
    s.validate = .ok () ↔ ∀ c ∈ s.configuration.clusters, Xml.isElementName c.name = true := by
  rw [validate]
  constructor
  · intro h
    split at h
    · cases h
    · next hnone => simpa using hnone
  · intro h
    have hnone : s.configuration.clusters.find? (fun c => !Xml.isElementName c.name) = none := by
      simpa using h
    rw [hnone]

/-- The check of names quotes the first cluster whose name cannot become an element. -/
theorem Spec.validate_eq_error_iff {s : Spec} {fault : Fault} :
    s.validate = .error fault ↔
      ∃ before c after, s.configuration.clusters = before ++ c :: after ∧
        (∀ c' ∈ before, Xml.isElementName c'.name = true) ∧ Xml.isElementName c.name = false ∧
        fault = .clusterName c.name := by
  rw [validate]
  constructor
  · intro h
    split at h
    · next c hc =>
      obtain ⟨hname, before, after, hsplit, hbefore⟩ := List.find?_eq_some_iff_append.1 hc
      cases h
      exact ⟨before, c, after, hsplit, by simpa using hbefore, by simpa using hname, rfl⟩
    · cases h
  · rintro ⟨before, c, after, hsplit, hbefore, hname, rfl⟩
    have hfound : s.configuration.clusters.find? (fun c => !Xml.isElementName c.name) = some c :=
      List.find?_eq_some_iff_append.2
        ⟨by simp [hname], before, after, hsplit, by simpa using hbefore⟩
    rw [hfound]

theorem Spec.validate_eq_validation_iff {s : Spec} {detail : String} :
    s.validate = .error (.validation detail) ↔
      ∃ before c after, s.configuration.clusters = before ++ c :: after ∧
        (∀ c' ∈ before, Xml.isElementName c'.name = true) ∧ Xml.isElementName c.name = false ∧
        detail = "cluster name '" ++ c.name ++
          "' must start with a letter or '_' and contain only " ++
          "letters, digits, '_', '-' and '.'" := by
  simp only [validate_eq_error_iff, Fault.clusterName, Fault.validation.injEq]

namespace Installation

theorem name?_eq_none_iff {i : Installation} :
    i.name? = none ↔ i.metadata.name = none ∨ i.metadata.name = some "" := by
  rw [name?]
  cases i.metadata.name with
  | none => simp
  | some name => simp [Option.filter_some]

/-- The basis of an installation that has a name. -/
def basisNamed (i : Installation) (o : Options) (name : String) : Basis :=
  .derived name (i.targetNamespace o) o.defaultImage i.spec

theorem consistent_basisNamed (i : Installation) (o : Options) (name : String) :
    (i.basisNamed o name).Consistent :=
  Basis.consistent_derived _ _ _ _

variable {i : Installation} {o : Options} {name : String}

theorem compile_of_nameless (h : i.name? = none) :
    (i.compile o).outcome = .error .missingName := by
  simp [compile, basis, h]

theorem compile_of_misnamed {fault : Fault} (h : i.name? = some name)
    (hfault : i.spec.validate = .error fault) : (i.compile o).outcome = .error fault := by
  simp [compile, basis, basis.liftExcept, h, hfault]

/-- The basis of an installation that passes the checks is built unless there is no room for the
list of deployments. -/
theorem basis_of_checked (h : i.name? = some name) (hvalid : i.spec.validate = .ok ()) :
    (i.basis o).outcome =
      if Topology.HasRoom (Topology.capacity i.spec) then .ok (i.basisNamed o name)
      else .error .capacityOverflow := by
  simp [basis, basis.liftExcept, h, hvalid, basisNamed, Basis.outcome_ofSpec]

theorem compile_of_overbooked (h : i.name? = some name) (hvalid : i.spec.validate = .ok ())
    (hroom : ¬Topology.HasRoom (Topology.capacity i.spec)) :
    (i.compile o).outcome = .error .capacityOverflow := by
  simp [compile, basis_of_checked h hvalid, hroom]

/-- An installation that passes the checks and can list its deployments fails as its StatefulSets
do, and has all other objects of its basis. -/
theorem compile_of_checked (h : i.name? = some name) (hvalid : i.spec.validate = .ok ())
    (hroom : Topology.HasRoom (Topology.capacity i.spec)) :
    (i.compile o).outcome =
      (i.basisNamed o name).statefulSets.outcome >>= fun sets =>
        .ok { (i.basisNamed o name).objects with statefulSets := sets } := by
  have hbasis : (i.basis o).outcome = .ok (i.basisNamed o name) := by
    rw [basis_of_checked h hvalid, if_pos hroom]
  have hmaps := Basis.outcome_configMaps (i.consistent_basisNamed o name)
  simp only [compile, Building.outcome_bind, hbasis, ok_bind, Building.outcome_lift, hmaps,
    Building.outcome_report, Building.outcome_pure]
  rfl

/-- An installation compiles when it passes the checks, there is room for the list of deployments
and none of them selects an empty pod template; it then has the objects of its basis. -/
theorem compile_eq_ok_iff {objects : Objects} :
    (i.compile o).outcome = .ok objects ↔
      ∃ name, i.name? = some name ∧ i.spec.validate = .ok () ∧
        Topology.HasRoom (Topology.capacity i.spec) ∧
        (∀ d ∈ (i.basisNamed o name).deployments, ∀ template,
          ¬(i.basisNamed o name).SelectsEmptyPod template d) ∧
        objects = (i.basisNamed o name).objects := by
  constructor
  · intro hok
    -- a check that fails would have ended the compilation
    cases hname : i.name? with
    | none =>
      rw [compile_of_nameless hname] at hok
      cases hok
    | some name =>
      cases hvalid : i.spec.validate with
      | error fault =>
        rw [compile_of_misnamed hname hvalid] at hok
        cases hok
      | ok _ =>
        have hb := i.consistent_basisNamed o name
        by_cases hroom : Topology.HasRoom (Topology.capacity i.spec)
        · rw [compile_of_checked hname hvalid hroom, bind_eq_ok_iff] at hok
          obtain ⟨sets, hsets, hobjects⟩ := hok
          obtain ⟨hne, rfl⟩ := (Basis.statefulSets_eq_ok_iff hb).1 hsets
          cases hobjects
          exact ⟨name, rfl, rfl, hroom, hne, rfl⟩
        · rw [compile_of_overbooked hname hvalid hroom] at hok
          cases hok
  · rintro ⟨name, hname, hvalid, hroom, hne, rfl⟩
    have hsets := (Basis.statefulSets_eq_ok_iff (i.consistent_basisNamed o name)).2 ⟨hne, rfl⟩
    rw [compile_of_checked hname hvalid hroom, hsets]
    rfl

/-- An installation fails by its own name, by the name of a cluster, for want of room, or by the
first deployment that selects an empty pod template. -/
theorem compile_eq_error_iff {fault : Fault} :
    (i.compile o).outcome = .error fault ↔
      (i.name? = none ∧ fault = .missingName) ∨
      ∃ name, i.name? = some name ∧
        (i.spec.validate = .error fault ∨ i.spec.validate = .ok () ∧
          (¬Topology.HasRoom (Topology.capacity i.spec) ∧ fault = .capacityOverflow ∨
            Topology.HasRoom (Topology.capacity i.spec) ∧
              (i.basisNamed o name).statefulSets.outcome = .error fault)) := by
  cases hname : i.name? with
  | none => simp [compile_of_nameless hname, eq_comm]
  | some name =>
    cases hvalid : i.spec.validate with
    | error fault' => simp [compile_of_misnamed hname hvalid]
    | ok _ =>
      by_cases hroom : Topology.HasRoom (Topology.capacity i.spec)
      · simp [compile_of_checked hname hvalid hroom, bind_eq_error_iff, hroom]
      · simp [compile_of_overbooked hname hvalid hroom, hroom, eq_comm]

/-- A compilation fails by a check, for want of room or by an empty pod template. -/
theorem fault_of_compile {fault : Fault} (h : (i.compile o).outcome = .error fault) :
    (∃ detail, fault = .validation detail) ∨ fault = .capacityOverflow ∨
      ∃ template d, fault = .emptyPodTemplate template d := by
  rcases compile_eq_error_iff.1 h with ⟨-, rfl⟩ | ⟨name, -, h | ⟨-, ⟨-, rfl⟩ | ⟨-, h⟩⟩⟩
  · exact .inl ⟨_, rfl⟩
  · obtain ⟨_, c, _, -, -, -, rfl⟩ := Spec.validate_eq_error_iff.1 h
    exact .inl ⟨_, rfl⟩
  · exact .inr (.inl rfl)
  · exact .inr (.inr (Basis.fault_of_statefulSets (i.consistent_basisNamed o name) h))

theorem compile_eq_validation_iff {detail : String} :
    (i.compile o).outcome = .error (.validation detail) ↔
      (i.name? = none ∧ .validation detail = Fault.missingName) ∨
      (i.name? ≠ none ∧ i.spec.validate = .error (.validation detail)) := by
  have hsets : ∀ name,
      (i.basisNamed o name).statefulSets.outcome ≠ .error (.validation detail) := by
    intro name herror
    obtain ⟨_, _, hfault⟩ := Basis.fault_of_statefulSets (i.consistent_basisNamed o name) herror
    cases hfault
  rw [compile_eq_error_iff, Option.ne_none_iff_exists']
  simp only [hsets, reduceCtorEq, and_false, or_false, exists_and_right]

/-- For want of room only an installation fails that passes the checks. -/
theorem compile_eq_capacityOverflow_iff :
    (i.compile o).outcome = .error .capacityOverflow ↔
      i.name? ≠ none ∧ i.spec.validate = .ok () ∧
        ¬Topology.HasRoom (Topology.capacity i.spec) := by
  have hsets : ∀ name, (i.basisNamed o name).statefulSets.outcome ≠ .error .capacityOverflow := by
    intro name herror
    obtain ⟨_, _, hfault⟩ := Basis.fault_of_statefulSets (i.consistent_basisNamed o name) herror
    cases hfault
  have hchecked : i.spec.validate ≠ .error .capacityOverflow := by
    intro herror
    obtain ⟨_, _, _, -, -, -, hfault⟩ := Spec.validate_eq_error_iff.1 herror
    cases hfault
  rw [compile_eq_error_iff, Option.ne_none_iff_exists']
  simp [hsets, hchecked, Fault.missingName]

theorem compile_eq_emptyPodTemplate_iff (hname : i.name? = some name)
    (hvalid : i.spec.validate = .ok ()) (hroom : Topology.HasRoom (Topology.capacity i.spec))
    (hs : i.spec.DigestsTellSelections) {template d : String} :
    (i.compile o).outcome = .error (.emptyPodTemplate template d) ↔
      i.spec.SelectsEmptyPod template d ∧
        ∀ template' d', i.spec.SelectsEmptyPod template' d' → d = d' ∨ BytewiseLT d d' := by
  rw [compile_of_checked hname hvalid hroom, bind_eq_error_iff,
    ← Basis.statefulSets_derived_eq_error_iff name (i.targetNamespace o) o.defaultImage hs]
  simp [basisNamed]

theorem exists_compile_eq_ok_iff (hname : i.name? = some name) (hvalid : i.spec.validate = .ok ())
    (hroom : Topology.HasRoom (Topology.capacity i.spec)) (hs : i.spec.DigestsTellSelections) :
    (∃ objects, (i.compile o).outcome = .ok objects) ↔
      ∀ template d, ¬i.spec.SelectsEmptyPod template d := by
  simp only [compile_eq_ok_iff, hname, hvalid]
  constructor
  · rintro ⟨_, _, hname', -, -, hne, -⟩ template d hempty
    cases hname'
    have hd := hempty.mem_deployments
    exact hne d hd template ((Basis.selectsEmptyPod_derived_iff _ _ _ hs hd).2 hempty)
  · intro hne
    refine ⟨_, name, rfl, trivial, hroom, ?_, rfl⟩
    intro d hd template hempty
    exact hne template d ((Basis.selectsEmptyPod_derived_iff _ _ _ hs hd).1 hempty)

/-- An installation that passes the checks, can list its deployments and selects no templates
compiles. -/
theorem exists_compile_of_unset (hname : i.name? = some name) (hvalid : i.spec.validate = .ok ())
    (hroom : Topology.HasRoom (Topology.capacity i.spec))
    (hunset : ∀ p ∈ (Topology.walk i.spec).placements, p.replica.selection = .unset) :
    ∃ objects, (i.compile o).outcome = .ok objects := by
  refine (exists_compile_eq_ok_iff hname hvalid hroom
    (Spec.digestsTellSelections_of_eq hunset)).2 ?_
  rintro template d ⟨p, hp, -, htemplate, -⟩
  rw [hunset p hp] at htemplate
  cases htemplate

/-- Which installations fail, and how. The name of the installation is checked first, then the names
of the clusters, of which the first bad one is quoted. After that it depends on the expected number
of identifiers whether there is room for their list. If there is and digests tell selections, only
an empty pod template is a fault: the one that the least identifier selects. -/
theorem compile_outcome (i : Installation) (o : Options) :
    (∀ detail, (i.compile o).outcome ≠ .error (.invariant detail)) ∧
    (∀ detail, (i.compile o).outcome ≠ .error (.serialization detail)) ∧
    (∀ detail, (i.compile o).outcome = .error (.validation detail) ↔
      ((i.metadata.name = none ∨ i.metadata.name = some "") ∧
        detail = "ClickHouseInstallation must have metadata.name") ∨
      (¬(i.metadata.name = none ∨ i.metadata.name = some "") ∧
        ∃ before c after, i.spec.configuration.clusters = before ++ c :: after ∧
          (∀ c' ∈ before, Xml.isElementName c'.name = true) ∧ Xml.isElementName c.name = false ∧
          detail = "cluster name '" ++ c.name ++
            "' must start with a letter or '_' and contain only " ++
            "letters, digits, '_', '-' and '.'")) ∧
    ((i.compile o).outcome = .error .capacityOverflow ↔
      ¬(i.metadata.name = none ∨ i.metadata.name = some "") ∧
        (∀ c ∈ i.spec.configuration.clusters, Xml.isElementName c.name = true) ∧
        ¬Topology.HasRoom (Topology.capacity i.spec)) ∧
    (¬(i.metadata.name = none ∨ i.metadata.name = some "") →
      (∀ c ∈ i.spec.configuration.clusters, Xml.isElementName c.name = true) →
      Topology.HasRoom (Topology.capacity i.spec) →
      i.spec.DigestsTellSelections →
      (∀ template d, (i.compile o).outcome = .error (.emptyPodTemplate template d) ↔
        i.spec.SelectsEmptyPod template d ∧
          ∀ template' d', i.spec.SelectsEmptyPod template' d' → d = d' ∨ BytewiseLT d d') ∧
      ((∃ objects, (i.compile o).outcome = .ok objects) ↔
        ∀ template d, ¬i.spec.SelectsEmptyPod template d)) := by
  refine ⟨?invariant, ?serialization, ?validation, ?overflow, ?checked⟩
  case invariant =>
    intro detail herror
    rcases fault_of_compile herror with ⟨_, h⟩ | h | ⟨_, _, h⟩ <;> cases h
  case serialization =>
    intro detail herror
    rcases fault_of_compile herror with ⟨_, h⟩ | h | ⟨_, _, h⟩ <;> cases h
  case validation =>
    intro detail
    rw [compile_eq_validation_iff, ← name?_eq_none_iff, Fault.missingName, Fault.validation.injEq]
    exact or_congr_right (and_congr_right fun _ => Spec.validate_eq_validation_iff)
  case overflow =>
    rw [compile_eq_capacityOverflow_iff, Ne, name?_eq_none_iff, Spec.validate_eq_ok_iff]
  case checked =>
    intro hnamed hnames hroom hdigests
    rw [← name?_eq_none_iff] at hnamed
    obtain ⟨name, hname⟩ := Option.ne_none_iff_exists'.1 hnamed
    have hvalid := Spec.validate_eq_ok_iff.2 hnames
    exact ⟨fun template d => compile_eq_emptyPodTemplate_iff hname hvalid hroom hdigests,
      exists_compile_eq_ok_iff hname hvalid hroom hdigests⟩

/-- An installation of which only the name and the specification are set. -/
def named (name : String) (s : Spec) : Installation := ⟨⟨some name, none, .empty⟩, s⟩

theorem selection_pair :
    ∀ p ∈ (Topology.walk Spec.pair).placements, p.replica.selection = .unset := by
  decide

/-- The pair compiles under any name. -/
theorem exists_compile_named_pair {name : String} (h : name ≠ "") :
    ∃ objects, ((named name Spec.pair).compile .none).outcome = .ok objects := by
  have hname : (named name Spec.pair).name? = some name := by simp [name?, named, h]
  have hunset : ∀ p ∈ (Topology.walk (named name Spec.pair).spec).placements,
      p.replica.selection = .unset := selection_pair
  exact exists_compile_of_unset hname rfl (by decide : Topology.HasRoom 2) hunset

theorem exists_compile_pair :
    ∃ objects, ((named "demo" Spec.pair).compile .none).outcome = .ok objects :=
  exists_compile_named_pair (by decide)

/-- One replica whose pod template has no containers. -/
def bare : Installation :=
  named "demo" { Spec.ofClusters [⟨"main", .simplest, ⟨some "bare", none⟩⟩] with
    templates := ⟨[⟨"bare", [], []⟩], []⟩ }

theorem compile_outcome_bare :
    ∃ d, (bare.compile .none).outcome = .error (.emptyPodTemplate "bare" d) := by
  obtain ⟨p, hp, hselection⟩ : ∃ p, (Topology.walk bare.spec).placements = [p] ∧
      p.replica.selection = ⟨some "bare", none⟩ := ⟨_, rfl, rfl⟩
  have hone : ∀ q ∈ (Topology.walk bare.spec).placements, q = p := by
    intro q hq
    rw [hp] at hq
    exact List.mem_singleton.1 hq
  have hdigests : bare.spec.DigestsTellSelections :=
    Spec.digestsTellSelections_of_eq fun q hq => (hone q hq) ▸ hselection
  obtain ⟨-, -, -, -, hchecked⟩ := compile_outcome bare .none
  obtain ⟨hempty, -⟩ := hchecked (by decide) (by decide) (by decide) hdigests
  refine ⟨p.replica.deployment, (hempty _ _).2 ⟨?_, ?_⟩⟩
  · refine ⟨p, ?_, rfl, congrArg Selection.podTemplate hselection, ⟨"bare", [], []⟩, rfl, rfl⟩
    rw [hp]
    exact List.mem_singleton_self p
  · rintro _ _ ⟨q, hq, rfl, -⟩
    exact .inl (congrArg (fun q => q.replica.deployment) (hone q hq).symm)

/-- A named installation that counts more replicas than there is room for, and has none. -/
def overbooked : Installation := named "demo" .overbooked

/-- That all checks pass and no pod template is empty does not mean that there are objects. -/
theorem not_compiled_overbooked :
    overbooked.metadata.name = some "demo" ∧
      (∀ c ∈ overbooked.spec.configuration.clusters, Xml.isElementName c.name = true) ∧
      overbooked.spec.DigestsTellSelections ∧
      (∀ template d, ¬overbooked.spec.SelectsEmptyPod template d) ∧
      ¬∃ objects, (overbooked.compile .none).outcome = .ok objects := by
  have hnone : (Topology.walk overbooked.spec).placements = [] := rfl
  refine ⟨rfl, by decide, ?digests, ?pods, ?objects⟩
  case digests =>
    have hunset : ∀ p ∈ (Topology.walk overbooked.spec).placements,
        p.replica.selection = .unset := by
      simp [hnone]
    exact Spec.digestsTellSelections_of_eq hunset
  case pods =>
    rintro template d ⟨p, hp, -⟩
    rw [hnone] at hp
    cases hp
  case objects =>
    rintro ⟨objects, hobjects⟩
    rw [compile_of_overbooked (i := overbooked) rfl rfl (by decide)] at hobjects
    cases hobjects

end Installation

end ShardManifest
