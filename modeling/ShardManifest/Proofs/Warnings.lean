import ShardManifest.Proofs.CompilationOutcome
import ShardManifest.Proofs.SharedSelections

/-!
# Warnings of a compilation

A compilation warns of whatever is declared and has no effect. The warnings come from three loops
that keep what they have met in a dictionary: templates by name, selections by fingerprint, and the
settings of a section. Each loop is followed here with the row of entries that it has behind it, so
that what it reports no longer depends on the dictionary. Objects are built without warnings, so
they do not matter, and neither does a fault that ends their construction.

## Main definitions

- `Logged.warnings`, `Building.warnings`: the warnings among what is reported
- `withEarlier`: the entries of a row, each with those before it
- `Spec.warnings`: what a specification is warned of

## Main results

- `events_enterAll`, `SelectionIndex.events_enterAll`, `SettingTree.events_enterAll`: the loops
- `Basis.warnings_ofSpec`: the basis of a specification is built with its warnings
- `Installation.warnings_of_compile`: the warnings of a compilation
-/

namespace ShardManifest

open Kubernetes

/-! ### Warnings among reports -/

namespace Logged

variable {α β : Type}

def warnings (x : Logged α) : List Event := x.events.filter fun e => e.severity = .warn

@[simp] theorem warnings_pure (a : α) : (pure a : Logged α).warnings = [] := rfl

@[simp] theorem warnings_bind (x : Logged α) (f : α → Logged β) :
    (x >>= f).warnings = x.warnings ++ (f x.value).warnings := by
  simp [warnings]

theorem warnings_report {e : Event} (h : e.severity ≠ .warn) : (report e).warnings = [] := by
  simp [warnings, h]

theorem warnings_mapM {f : α → Logged β} (hf : ∀ a, (f a).warnings = []) (l : List α) :
    (l.mapM f).warnings = [] := by
  induction l with
  | nil => rfl
  | cons a l ih =>
    rw [List.mapM_cons, warnings_bind, warnings_bind, hf a, ih]
    rfl

theorem warnings_eq_events {x : Logged α} (h : ∀ e ∈ x.events, e.severity = .warn) :
    x.warnings = x.events := by
  rw [warnings, List.filter_eq_self]
  simpa using h

end Logged

namespace Building

variable {α β : Type}

def warnings (x : Building α) : List Event := Logged.warnings x.run

theorem warnings_bind (x : Building α) (f : α → Building β) :
    (x >>= f).warnings = x.warnings ++
      match x.outcome with
      | .ok a => (f a).warnings
      | .error _ => [] := by
  simp only [warnings, outcome, ExceptT.run_bind, Logged.warnings_bind]
  cases x.run.value <;> rfl

/-- A construction that does not warn, also where it fails. -/
def Quiet (x : Building α) : Prop := x.warnings = []

theorem warnings_bind_of_quiet (x : Building α) {f : α → Building β} (hf : ∀ a, (f a).Quiet) :
    (x >>= f).warnings = x.warnings := by
  rw [warnings_bind]
  cases x.outcome with
  | error fault => exact List.append_nil _
  | ok a => simpa [Quiet] using hf a

theorem Quiet.bind {x : Building α} {f : α → Building β} (hx : x.Quiet) (hf : ∀ a, (f a).Quiet) :
    (x >>= f).Quiet := by
  rw [Quiet, warnings_bind_of_quiet x hf]
  exact hx

theorem quiet_pure (a : α) : (pure a : Building α).Quiet := rfl

theorem quiet_throw (fault : Fault) : (throw fault : Building α).Quiet := rfl

theorem quiet_require (fault : Fault) (a? : Option α) : (require fault a?).Quiet := by
  cases a? <;> rfl

theorem warnings_lift (x : Logged α) : warnings (ExceptT.lift x : Building α) = x.warnings := by
  have hrun : (ExceptT.lift x : Building α).run = Except.ok <$> x := rfl
  rw [warnings, hrun, Logged.warnings, Logged.events_map, Logged.warnings]

theorem warnings_lift_bind (x : Logged α) (f : α → Building β) :
    warnings ((ExceptT.lift x : Building α) >>= f) = x.warnings ++ (f x.value).warnings := by
  rw [warnings_bind, warnings_lift, outcome_lift]

theorem quiet_report {e : Event} (h : e.severity ≠ .warn) : (report e).Quiet := by
  rw [Quiet, report, warnings_lift]
  exact Logged.warnings_report h

theorem quiet_mapM {f : α → Building β} (hf : ∀ a, (f a).Quiet) (l : List α) :
    (l.mapM f).Quiet := by
  induction l with
  | nil => rfl
  | cons a l ih =>
    rw [List.mapM_cons]
    exact (hf a).bind fun b => ih.bind fun bs => quiet_pure (b :: bs)

end Building

/-! ### What a specification is warned of -/

/-- The entries of a row, each with those before it, of which some stand in front of the row. -/
def withEarlier {α : Type} : (before row : List α) → List (List α × α)
  | _, [] => []
  | before, a :: rest => (before, a) :: withEarlier (before ++ [a]) rest

/-- The names of a row that occur before, in order. -/
def repeatedAfter (before names : List String) : List String :=
  ((withEarlier before names).filter fun e => e.2 ∈ e.1).map Prod.snd

/-- The replicas of a row whose fingerprint does not occur before, in order. -/
def firstsAfter (before replicas : List Replica) : List Replica :=
  ((withEarlier before replicas).filter fun e =>
    e.2.fingerprint ∉ e.1.map Replica.fingerprint).map Prod.snd

/-- The warning of a name that is set and not declared. -/
def undeclared (warning : String → Event) (declared : List String) : Option String → List Event
  | some name => if name ∈ declared then [] else [warning name]
  | none => []

/-- What is declared again, pod templates before claim templates. -/
def TemplateLibrary.warnings (l : TemplateLibrary) : List Event :=
  (repeatedAfter [] (l.pods.map (·.name))).map .podTemplateRepeated
    ++ (repeatedAfter [] (l.claims.map (·.name))).map .claimTemplateRepeated

/-- What a replica selects that a library does not declare. -/
def Replica.warnings (l : TemplateLibrary) (r : Replica) : List Event :=
  undeclared (.podTemplateUndeclared r.deployment) (l.pods.map (·.name)) r.selection.podTemplate
    ++ undeclared (.claimTemplateUndeclared r.deployment) (l.claims.map (·.name))
      r.selection.claimTemplate

/-- Why the path of a setting is left out, if it is. -/
def Settings.pathWarnings (path : String) : List Event :=
  if segments path = [] then [.pathEmpty path]
  else (((segments path).find? fun s => !Xml.isElementName s).map (.pathInvalid path)).toList

/-- The paths that are left out, ascending. -/
def Settings.warnings (s : Settings) : List Event := s.keys.flatMap pathWarnings

def Configuration.warnings (c : Configuration) : List Event :=
  [c.users, c.profiles, c.quotas, c.settings].flatMap Settings.warnings

/-- What a specification is warned of: templates that are declared again, templates that the first
replica of a fingerprint selects and the library does not declare, and paths that are left out. -/
def Spec.warnings (s : Spec) : List Event :=
  s.templates.warnings
    ++ (firstsAfter [] ((Topology.walk s).placements.map Placement.replica)).flatMap
      (Replica.warnings s.templates)
    ++ s.configuration.warnings

/-! ### Templates -/

theorem repeatedAfter_cons (before : List String) (name : String) (names : List String) :
    repeatedAfter before (name :: names) =
      (if name ∈ before then [name] else []) ++ repeatedAfter (before ++ [name]) names := by
  by_cases h : name ∈ before <;> simp [repeatedAfter, withEarlier, h]

/-- Entering declarations behind others reports those whose name is in the index by then. -/
theorem events_enterAll {α β : Type} (name : α → String) (value : α → β)
    (repeated : String → Event) (l : List α) {before : List String} {d : Dictionary β}
    (h : ∀ key, d.contains key = true ↔ key ∈ before) :
    (enterAll name value repeated d l).events =
      (repeatedAfter before (l.map name)).map repeated := by
  -- the index answers for the names that were read, which grow with it
  induction l generalizing before d with
  | nil => rfl
  | cons a l ih =>
    have hinsert : ∀ key, (d.insert (name a) (value a)).contains key = true ↔
        key ∈ before ++ [name a] := by
      intro key
      rw [Dictionary.contains_insert_iff, h key, List.mem_append, List.mem_singleton]
    rw [enterAll, List.map_cons, repeatedAfter_cons, List.map_append, ← ih hinsert]
    by_cases hrepeated : name a ∈ before
    · simp [(h _).2 hrepeated, hrepeated]
    · have hnew : d.contains (name a) = false := by
        rw [← Bool.not_eq_true, h]
        exact hrepeated
      simp [hnew, hrepeated]

theorem TemplateIndex.events_ofLibrary (l : TemplateLibrary) :
    (ofLibrary l).events = l.warnings := by
  have hempty : ∀ {β : Type} (key : String),
      (Dictionary.empty : Dictionary β).contains key = true ↔ key ∈ ([] : List String) := by
    simp [Dictionary.contains]
  simp only [ofLibrary, Logged.events_bind, Logged.events_pure, List.append_nil,
    events_enterAll _ _ _ _ hempty, TemplateLibrary.warnings]

/-! ### Selections -/

theorem firstsAfter_cons (before : List Replica) (r : Replica) (rs : List Replica) :
    firstsAfter before (r :: rs) =
      (if r.fingerprint ∈ before.map Replica.fingerprint then [] else [r])
        ++ firstsAfter (before ++ [r]) rs := by
  by_cases h : r.fingerprint ∈ before.map Replica.fingerprint <;>
    simp only [firstsAfter, withEarlier, List.filter_cons, h, not_true, not_false_eq_true,
      decide_true, decide_false, if_true, if_false, List.map_cons, List.nil_append,
      List.singleton_append, Bool.false_eq_true]

theorem events_resolveName {α : Type} (warning : String → Event) {d : Dictionary α}
    {declared : List String} (h : ∀ name, d.contains name = true ↔ name ∈ declared)
    (name : Option String) :
    (resolveName warning d name).events = undeclared warning declared name := by
  cases name with
  | none => rfl
  | some name =>
    rw [resolveName, undeclared]
    by_cases hname : name ∈ declared
    · simp [(h name).2 hname, hname]
    · have hnot : d.contains name = false := by
        rw [← Bool.not_eq_true, h]
        exact hname
      simp [hnot, hname]

/-- Resolving what a replica selects reports the names that the library does not declare. -/
theorem Selection.events_resolve (l : TemplateLibrary) (r : Replica) :
    (r.selection.resolve (TemplateIndex.ofLibrary l).value r.deployment).events =
      r.warnings l := by
  have hpods : ∀ name, (TemplateIndex.ofLibrary l).value.pods.contains name = true ↔
      name ∈ l.pods.map (·.name) := by
    intro name
    rw [TemplateIndex.contains_pods_ofLibrary_iff, List.mem_map]
  have hclaims : ∀ name, (TemplateIndex.ofLibrary l).value.claims.contains name = true ↔
      name ∈ l.claims.map (·.name) := by
    intro name
    rw [TemplateIndex.contains_claims_ofLibrary_iff, List.mem_map]
  simp only [resolve, Logged.events_bind, Logged.events_pure, List.append_nil,
    events_resolveName _ hpods, events_resolveName _ hclaims, Replica.warnings]

namespace SelectionIndex

variable {templates : TemplateIndex}

theorem contains_selections_enter_iff {index : SelectionIndex} {r : Replica} {f : Fingerprint} :
    (index.enter templates r).value.selections.contains f.hex = true ↔
      index.selections.contains f.hex = true ∨ f = r.fingerprint := by
  have hhex : f.hex = r.fingerprint.hex ↔ f = r.fingerprint := by
    rw [← Fingerprint.mk.injEq]
  rw [value_enter]
  split
  next hmet =>
    -- a fingerprint that was met is in the index already
    rw [or_iff_left_of_imp]
    intro hf
    rw [hf]
    exact hmet
  next => rw [Dictionary.contains_insert_iff, hhex]

/-- Entering replicas behind others resolves those whose fingerprint is not in the index by then. -/
theorem events_enterAll (rs : List Replica) {before : List Replica} {index : SelectionIndex}
    (h : ∀ f : Fingerprint, index.selections.contains f.hex = true ↔
      f ∈ before.map Replica.fingerprint) :
    (enterAll templates index rs).events =
      (firstsAfter before rs).flatMap fun r =>
        (r.selection.resolve templates r.deployment).events := by
  induction rs generalizing before index with
  | nil => rfl
  | cons r rs ih =>
    have henter : ∀ f : Fingerprint,
        (index.enter templates r).value.selections.contains f.hex = true ↔
          f ∈ (before ++ [r]).map Replica.fingerprint := by
      intro f
      rw [contains_selections_enter_iff, h f, List.map_append, List.mem_append, List.map_singleton,
        List.mem_singleton]
    rw [enterAll, Logged.events_bind, ih henter, firstsAfter_cons, List.flatMap_append]
    congr 1
    by_cases hmet : r.fingerprint ∈ before.map Replica.fingerprint
    · simp only [enter, (h _).2 hmet, hmet, if_true, Logged.events_bind, Logged.events_pure,
        List.append_nil, List.flatMap_nil]
    · have hnew : index.selections.contains r.fingerprint.hex = false := by
        rw [← Bool.not_eq_true, h]
        exact hmet
      simp only [enter, hnew, hmet, if_false, Bool.false_eq_true, Logged.events_bind,
        Logged.events_pure, List.append_nil, List.flatMap_singleton]

theorem events_ofTopology (t : Topology) (l : TemplateLibrary) :
    (ofTopology t (TemplateIndex.ofLibrary l).value).events =
      (firstsAfter [] (t.placements.map Placement.replica)).flatMap (Replica.warnings l) := by
  have hempty : ∀ f : Fingerprint, empty.selections.contains f.hex = true ↔
      f ∈ ([] : List Replica).map Replica.fingerprint := by
    simp [Dictionary.contains, empty]
  rw [ofTopology, events_enterAll _ hempty]
  simp only [Selection.events_resolve]

end SelectionIndex

/-! ### Settings -/

/-- What entering settings reports depends on their paths only, not on the tree. -/
theorem SettingTree.events_enterAll (tree : SettingTree) (entries : List (String × Setting)) :
    (enterAll tree entries).events = (entries.map Prod.fst).flatMap Settings.pathWarnings := by
  induction entries generalizing tree with
  | nil => rfl
  | cons e entries ih =>
    obtain ⟨path, setting⟩ := e
    rw [List.map_cons, List.flatMap_cons, Settings.pathWarnings, enterAll]
    by_cases hempty : Settings.segments path = []
    · simp [hempty, ih]
    · cases hbad : (Settings.segments path).find? fun s => !Xml.isElementName s with
      | some bad => simp [hempty, ih]
      | none => simp [hempty, ih]

theorem Fragment.events_settings (section? : Option String) (s : Settings) :
    (settings section? s).events = s.warnings := by
  rw [settings, Logged.events_bind, SettingTree.ofSettings, SettingTree.events_enterAll,
    Settings.warnings, Dictionary.keys]
  split <;> simp

/-! ### The basis -/

theorem TemplateIndex.warnings_ofLibrary (l : TemplateLibrary) :
    (ofLibrary l).warnings = l.warnings := by
  rw [← events_ofLibrary]
  refine Logged.warnings_eq_events fun e he => ?_
  rw [events_ofLibrary, TemplateLibrary.warnings, List.mem_append, List.mem_map, List.mem_map] at he
  rcases he with ⟨name, -, rfl⟩ | ⟨name, -, rfl⟩ <;> rfl

theorem severity_of_mem_undeclared {warning : String → Event} {declared : List String}
    {name : Option String} (h : ∀ name, (warning name).severity = .warn) :
    ∀ e ∈ undeclared warning declared name, e.severity = .warn := by
  intro e he
  cases name with
  | none => cases he
  | some name =>
    rw [undeclared] at he
    split at he
    next => cases he
    next =>
      rw [List.mem_singleton.1 he]
      exact h name

theorem SelectionIndex.warnings_ofTopology (t : Topology) (l : TemplateLibrary) :
    (ofTopology t (TemplateIndex.ofLibrary l).value).warnings =
      (firstsAfter [] (t.placements.map Placement.replica)).flatMap (Replica.warnings l) := by
  rw [← events_ofTopology]
  refine Logged.warnings_eq_events fun e he => ?_
  rw [events_ofTopology, List.mem_flatMap] at he
  obtain ⟨r, -, he⟩ := he
  rw [Replica.warnings, List.mem_append] at he
  rcases he with he | he
  · exact severity_of_mem_undeclared (fun _ => rfl) e he
  · exact severity_of_mem_undeclared (fun _ => rfl) e he

theorem Fragment.warnings_settings (section? : Option String) (s : Settings) :
    (settings section? s).warnings = s.warnings := by
  rw [← events_settings section?]
  refine Logged.warnings_eq_events fun e he => ?_
  rw [events_settings, Settings.warnings, List.mem_flatMap] at he
  obtain ⟨path, -, he⟩ := he
  rw [Settings.pathWarnings] at he
  split at he
  next =>
    rw [List.mem_singleton.1 he]
    rfl
  next =>
    rw [Option.mem_toList, Option.map_eq_some_iff] at he
    obtain ⟨bad, -, rfl⟩ := he
    rfl

theorem Bundle.warnings_add (b : Bundle) (filename content : String) :
    (b.add filename content).warnings = [] := by
  rw [add]
  split <;> rfl

theorem Bundle.warnings_compose (installation inNamespace : String) (s : Spec) (t : Topology) :
    (compose installation inNamespace s t).warnings = s.configuration.warnings := by
  simp only [compose, Logged.warnings_bind, warnings_add, Fragment.warnings_settings,
    Configuration.warnings, List.flatMap_cons, List.flatMap_nil, List.append_nil, List.nil_append]

theorem Topology.warnings_survey (s : Spec) : (survey s).warnings = [] := by
  rw [Logged.warnings, survey, List.filter_eq_nil_iff]
  intro e he
  obtain ⟨p, -, rfl⟩ := List.mem_map.1 he
  simp [walkedEvent, Event.severity]

/-- The basis of a specification is built with what the specification is warned of. -/
theorem Basis.warnings_ofSpec (installation inNamespace defaultImage : String) (s : Spec) :
    (ofSpec installation inNamespace defaultImage s).warnings = s.warnings := by
  have hwalk : (Topology.survey s).value = Topology.walk s := rfl
  -- the list of deployments comes after all loops, whether there is room for it or not
  have hlisted : ∀ (listed? : Option (List String)) (ready : List String → Event)
      (b : List String → Basis), (∀ deployments, (ready deployments).severity ≠ .warn) →
        (do
          let deployments ← Building.require .capacityOverflow listed?
          Building.report (ready deployments)
          return b deployments : Building Basis).warnings = [] := by
    intro listed? ready b hready
    refine (Building.quiet_require _ _).bind fun deployments => ?_
    exact (Building.quiet_report (hready deployments)).bind fun _ => Building.quiet_pure _
  rw [ofSpec, Building.warnings_lift_bind, Building.warnings_lift_bind,
    Building.warnings_lift_bind, Building.warnings_lift_bind, hlisted]
  case a => simp [Event.severity]
  simp only [hwalk, Topology.warnings_survey, TemplateIndex.warnings_ofLibrary,
    SelectionIndex.warnings_ofTopology, Bundle.warnings_compose, Spec.warnings, List.append_nil,
    List.nil_append, List.append_assoc]

/-! ### Objects -/

namespace Basis

variable (b : Basis)

theorem warnings_services : b.services.warnings = [] := by
  have hreplica : ∀ d, (b.replicaService d).warnings = [] := fun _ => rfl
  rw [services, Logged.warnings_bind, Logged.warnings_bind, Logged.warnings_mapM hreplica]
  rfl

theorem quiet_macrosConfigMap (deployment : String) : (b.macrosConfigMap deployment).Quiet := by
  refine (Building.quiet_require _ _).bind fun content => ?_
  refine (Building.quiet_report ?_).bind fun _ => Building.quiet_pure _
  simp [Event.severity]

theorem quiet_configMaps : b.configMaps.Quiet := by
  have hcommon : b.commonConfigMap.Quiet := rfl
  refine hcommon.bind fun first => ?_
  exact (Building.quiet_mapM b.quiet_macrosConfigMap _).bind fun _ => Building.quiet_pure _

theorem quiet_podContent (deployment name : String) (mounts : List VolumeMount)
    (template : Option String) : (b.podContent deployment name mounts template).Quiet := by
  cases template with
  | none => rfl
  | some template =>
    refine (Building.quiet_require _ _).bind fun content => ?_
    split
    next => exact (Building.quiet_throw _).bind fun _ => rfl
    next => rfl

theorem quiet_claim? (deployment name : String) (template : Option String) :
    (b.claim? deployment name template).Quiet := by
  cases template with
  | none => rfl
  | some template => exact (Building.quiet_require _ _).bind fun _ => rfl

theorem quiet_statefulSet (deployment : String) : (b.statefulSet deployment).Quiet := by
  rw [statefulSet]
  refine (Building.quiet_require _ _).bind fun selection => ?_
  refine (b.quiet_podContent _ _ _ _).bind fun content => ?_
  exact (b.quiet_claim? _ _ _).bind fun claim => Building.quiet_pure _

theorem quiet_statefulSets : b.statefulSets.Quiet := Building.quiet_mapM b.quiet_statefulSet _

end Basis

namespace Installation

variable {i : Installation} {o : Options}

/-- Objects are built without warnings, and so is a fault among them. -/
theorem warnings_compile : (i.compile o).warnings = (i.basis o).warnings := by
  refine Building.warnings_bind_of_quiet _ fun b => ?_
  have hservices : Building.Quiet (ExceptT.lift b.services) := by
    rw [Building.Quiet, Building.warnings_lift]
    exact b.warnings_services
  refine hservices.bind fun services => ?_
  refine b.quiet_configMaps.bind fun configMaps => ?_
  refine b.quiet_statefulSets.bind fun statefulSets => ?_
  exact (Building.quiet_report (by simp [Event.severity])).bind fun _ => Building.quiet_pure _

theorem warnings_basis_of_nameless (h : i.name? = none) : (i.basis o).warnings = [] := by
  rw [basis, h]
  rfl

theorem warnings_basis_of_misnamed {fault : Fault} (h : i.spec.validate = .error fault) :
    (i.basis o).warnings = [] := by
  rw [basis, h]
  cases i.name? <;> rfl

theorem warnings_basis_of_checked {name : String} (h : i.name? = some name)
    (hvalid : i.spec.validate = .ok ()) : (i.basis o).warnings = i.spec.warnings := by
  rw [basis, h, hvalid, ← Basis.warnings_ofSpec name (i.targetNamespace o) o.defaultImage]
  rfl

/-- A compilation that a check rejects warns of nothing. Any other warns of everything that it
skips or replaces, also if it fails later. -/
theorem warnings_of_compile (i : Installation) (o : Options) :
    (i.compile o).warnings =
      match (i.compile o).outcome with
      | .error (.validation _) => []
      | _ => i.spec.warnings := by
  rw [warnings_compile]
  cases hname : i.name? with
  | none =>
    rw [compile_of_nameless hname, warnings_basis_of_nameless hname]
    rfl
  | some name =>
    cases hvalid : i.spec.validate with
    | error fault =>
      obtain ⟨_, _, _, -, -, -, rfl⟩ := Spec.validate_eq_error_iff.1 hvalid
      rw [compile_of_misnamed hname hvalid, warnings_basis_of_misnamed hvalid]
      rfl
    | ok _ =>
      rw [warnings_basis_of_checked hname hvalid]
      split
      next detail houtcome =>
        rcases compile_eq_validation_iff.1 houtcome with ⟨hnone, -⟩ | ⟨-, herror⟩
        · rw [hname] at hnone
          cases hnone
        · rw [hvalid] at herror
          cases herror
      next => rfl

end Installation

end ShardManifest
