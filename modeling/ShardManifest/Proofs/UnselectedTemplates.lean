import Mathlib.Logic.Relation
import ShardManifest.Proofs.Mounts

/-!
# Templates that no replica selects

A compilation looks into the template library under the names that some replica selects, and there
it finds the last declaration. So two libraries are as good as each other if they answer alike under
these names. The order of declarations with different names, declarations behind which their name is
declared again, and templates that nobody selects are of no account.

## Main definitions

- `Rearranged`: one change to a row of declarations that is of no account
- `Spec.SelectsPod`, `Spec.SelectsClaim`: the names that some replica selects
- `Spec.AnswersAlike`: a library answers as that of the specification does, under these names
- `Installation.withTemplates`: an installation with another library

## Main results

- `lastNamed_eq_of_rearranged`: what is found under a name in use after any number of changes
- `Basis.outcome_statefulSet_withTemplates`: what of the templates a StatefulSet depends on
- `Installation.compile_withTemplates`: libraries that answer alike compile alike
-/

namespace ShardManifest

/-! ### Rows of declarations -/

section Rearranged

variable {α : Type} {name : α → String} {used : String → Prop}

/-- One change to a row of declarations of which only some names are used. -/
inductive Rearranged (name : α → String) (used : String → Prop) : List α → List α → Prop
  /-- Neighbours with different names change places. -/
  | swap (before : List α) (a b : α) (after : List α) (h : name a ≠ name b) :
      Rearranged name used (before ++ a :: b :: after) (before ++ b :: a :: after)
  /-- A declaration goes whose name is declared again behind it. -/
  | shadowed (before : List α) (a : α) (after : List α) (h : ∃ b ∈ after, name b = name a) :
      Rearranged name used (before ++ a :: after) (before ++ after)
  /-- A declaration goes whose name is not used. -/
  | unused (before : List α) (a : α) (after : List α) (h : ¬used (name a)) :
      Rearranged name used (before ++ a :: after) (before ++ after)

/-- One change leaves alone what is found under a name in use. -/
theorem Rearranged.lastNamed_eq {l l' : List α} (h : Rearranged name used l l') {key : String}
    (hkey : used key) : lastNamed name l key = lastNamed name l' key := by
  cases h with
  | swap before a b after h =>
    simp only [lastNamed_append, lastNamed_cons, Option.or_assoc]
    -- at most one of the two neighbours has the name
    by_cases ha : name a = key
    · have hb : name b ≠ key := fun hb => h (ha.trans hb.symm)
      simp [ha, hb]
    · simp [ha]
  | shadowed before a after h =>
    simp only [lastNamed_append, lastNamed_cons, Option.or_assoc]
    by_cases ha : name a = key
    · obtain ⟨b, hb⟩ := exists_lastNamed_eq_some_iff.2 (ha ▸ h)
      simp [hb]
    · simp [ha]
  | unused before a after h =>
    have ha : name a ≠ key := fun ha => h (ha ▸ hkey)
    simp [lastNamed_append, lastNamed_cons, ha]

/-- Any number of changes, made or taken back, leaves alone what is found under a name in use. -/
theorem lastNamed_eq_of_rearranged {l l' : List α}
    (h : Relation.EqvGen (Rearranged name used) l l') {key : String} (hkey : used key) :
    lastNamed name l key = lastNamed name l' key := by
  induction h with
  | rel _ _ h => exact h.lastNamed_eq hkey
  | refl _ => rfl
  | symm _ _ _ ih => exact ih.symm
  | trans _ _ _ _ _ ih ih' => exact ih.trans ih'

end Rearranged

/-! ### Names that are selected -/

namespace Spec

/-- Some replica selects a pod template. -/
def SelectsPod (s : Spec) (name : String) : Prop :=
  ∃ p ∈ (Topology.walk s).placements, p.replica.selection.podTemplate = some name

/-- Some replica selects a claim template. -/
def SelectsClaim (s : Spec) (name : String) : Prop :=
  ∃ p ∈ (Topology.walk s).placements, p.replica.selection.claimTemplate = some name

/-- Under each name that some replica selects a library has the same last declaration as that of the
specification, or neither declares the name. -/
structure AnswersAlike (s : Spec) (library : TemplateLibrary) : Prop where
  pods : ∀ name, s.SelectsPod name → library.pod? name = s.templates.pod? name
  claims : ∀ name, s.SelectsClaim name → library.claim? name = s.templates.claim? name

variable {s : Spec} {library : TemplateLibrary}

theorem answersAlike_of_rearranged
    (hpods : Relation.EqvGen (Rearranged PodDeclaration.name s.SelectsPod) s.templates.pods
      library.pods)
    (hclaims : Relation.EqvGen (Rearranged ClaimDeclaration.name s.SelectsClaim)
      s.templates.claims library.claims) : s.AnswersAlike library where
  pods _ h := (lastNamed_eq_of_rearranged hpods h).symm
  claims _ h := (lastNamed_eq_of_rearranged hclaims h).symm

/-- The indices of two libraries answer alike when these do. -/
theorem AnswersAlike.get?_pods (h : s.AnswersAlike library) {name : String}
    (hname : s.SelectsPod name) :
    (TemplateIndex.ofLibrary library).value.pods.get? name =
      (TemplateIndex.ofLibrary s.templates).value.pods.get? name := by
  rw [TemplateIndex.get?_pods_ofLibrary, TemplateIndex.get?_pods_ofLibrary, h.pods name hname]

theorem AnswersAlike.get?_claims (h : s.AnswersAlike library) {name : String}
    (hname : s.SelectsClaim name) :
    (TemplateIndex.ofLibrary library).value.claims.get? name =
      (TemplateIndex.ofLibrary s.templates).value.claims.get? name := by
  rw [TemplateIndex.get?_claims_ofLibrary, TemplateIndex.get?_claims_ofLibrary,
    h.claims name hname]

/-- Both libraries declare the same names of what a replica selects. -/
theorem AnswersAlike.declaredIn_eq (h : s.AnswersAlike library) {p : Placement}
    (hp : p ∈ (Topology.walk s).placements) :
    p.replica.selection.declaredIn (TemplateIndex.ofLibrary library).value =
      p.replica.selection.declaredIn (TemplateIndex.ofLibrary s.templates).value := by
  rw [Selection.declaredIn, Selection.declaredIn, Selection.mk.injEq]
  constructor
  · cases hname : p.replica.selection.podTemplate with
    | none => rfl
    | some name =>
      rw [Option.filter_some, Option.filter_some, Dictionary.contains, Dictionary.contains,
        h.get?_pods ⟨p, hp, hname⟩]
  · cases hname : p.replica.selection.claimTemplate with
    | none => rfl
    | some name =>
      rw [Option.filter_some, Option.filter_some, Dictionary.contains, Dictionary.contains,
        h.get?_claims ⟨p, hp, hname⟩]

/-- A specification with another library. -/
def withTemplates (s : Spec) (library : TemplateLibrary) : Spec := { s with templates := library }

end Spec

/-! ### What is built from a library -/

namespace Basis

/-- A basis with other templates and selections. -/
def withTemplates (b : Basis) (templates : TemplateIndex) (selections : SelectionIndex) : Basis :=
  { b with templates := templates, selections := selections }

variable {b : Basis} {templates : TemplateIndex} {selections : SelectionIndex} {d : String}

/-- The templates of a basis matter to a deployment under the names of its own selection. -/
theorem outcome_statefulSet_withTemplates (hb : b.Consistent)
    (hb' : (b.withTemplates templates selections).Consistent) (hd : d ∈ b.deployments)
    (hselection : selections.selection? d = b.selections.selection? d)
    (hpods : ∀ name, (b.resolved d).podTemplate = some name →
      templates.pods.get? name = b.templates.pods.get? name)
    (hclaims : ∀ name, (b.resolved d).claimTemplate = some name →
      templates.claims.get? name = b.templates.claims.get? name) :
    ((b.withTemplates templates selections).statefulSet d).outcome = (b.statefulSet d).outcome := by
  have hresolved : (b.withTemplates templates selections).resolved d = b.resolved d :=
    congrArg (·.getD .unset) hselection
  have hclaim : (b.withTemplates templates selections).claimOf d = b.claimOf d := by
    rw [claimOf, claimOf, hresolved]
    exact Option.bind_congr hclaims
  have hpod : ∀ name mounts,
      (b.withTemplates templates selections).podContent d name mounts (b.resolved d).podTemplate =
        b.podContent d name mounts (b.resolved d).podTemplate := by
    intro name mounts
    cases hselected : (b.resolved d).podTemplate with
    | none => rfl
    | some template => rw [podContent, podContent, withTemplates, hpods template hselected]
  rw [outcome_statefulSet_eq_bind hb' hd, outcome_statefulSet_eq_bind hb hd, hresolved, hclaim,
    hpod]
  rfl

section Derived

variable (installation inNamespace defaultImage : String) {s : Spec} {library : TemplateLibrary}

theorem derived_withTemplates :
    derived installation inNamespace defaultImage (s.withTemplates library) =
      (derived installation inNamespace defaultImage s).withTemplates
        (TemplateIndex.ofLibrary library).value
        (SelectionIndex.ofTopology (Topology.walk s)
          (TemplateIndex.ofLibrary library).value).value := rfl

/-- Libraries that answer alike under the selected names give the same StatefulSets, or the same
fault. -/
theorem outcome_statefulSets_derived_withTemplates (h : s.AnswersAlike library) :
    (derived installation inNamespace defaultImage
        (s.withTemplates library)).statefulSets.outcome =
      (derived installation inNamespace defaultImage s).statefulSets.outcome := by
  rw [statefulSets, statefulSets, Building.outcome_mapM, Building.outcome_mapM]
  refine mapM_congr fun d (hd : d ∈ (Topology.walk s).deployments) => ?_
  obtain ⟨p, hp, rfl⟩ := Topology.mem_deployments_iff.1 hd
  -- for both libraries it is one replica whose selection the deployment gets
  obtain ⟨q, hq, -, hselection⟩ := SelectionIndex.exists_selection?_walk hp
  have hresolved : (derived installation inNamespace defaultImage s).resolved
      p.replica.deployment =
        q.replica.selection.declaredIn (TemplateIndex.ofLibrary s.templates).value :=
    congrArg (·.getD .unset) (hselection _)
  rw [derived_withTemplates]
  refine outcome_statefulSet_withTemplates (consistent_derived _ _ _ _)
    (consistent_derived _ _ _ (s.withTemplates library)) hd ?selection ?pods ?claims
  case selection => rw [selections_derived, hselection, hselection, h.declaredIn_eq hq]
  case pods =>
    intro name hname
    rw [hresolved] at hname
    exact h.get?_pods ⟨q, hq, (Option.filter_eq_some_iff.1 hname).1⟩
  case claims =>
    intro name hname
    rw [hresolved] at hname
    exact h.get?_claims ⟨q, hq, (Option.filter_eq_some_iff.1 hname).1⟩

end Derived

end Basis

namespace Installation

/-- An installation with another library. -/
def withTemplates (i : Installation) (library : TemplateLibrary) : Installation :=
  { i with spec := i.spec.withTemplates library }

variable {i : Installation} {library : TemplateLibrary}

theorem outcome_compile_withTemplates (h : i.spec.AnswersAlike library) (o : Options) :
    ((i.withTemplates library).compile o).outcome = (i.compile o).outcome := by
  -- neither the checks nor the room depend on the templates
  have hname' : (i.withTemplates library).name? = i.name? := rfl
  have hvalid' : (i.withTemplates library).spec.validate = i.spec.validate := rfl
  cases hname : i.name? with
  | none => rw [compile_of_nameless hname, compile_of_nameless (hname'.trans hname)]
  | some name =>
    cases hvalid : i.spec.validate with
    | error fault =>
      rw [compile_of_misnamed hname hvalid,
        compile_of_misnamed (hname'.trans hname) (hvalid'.trans hvalid)]
    | ok _ =>
      have hsets : ((i.withTemplates library).basisNamed o name).statefulSets.outcome =
          (i.basisNamed o name).statefulSets.outcome :=
        Basis.outcome_statefulSets_derived_withTemplates name (i.targetNamespace o) o.defaultImage h
      by_cases hroom : Topology.HasRoom (Topology.capacity i.spec)
      · rw [compile_of_checked hname hvalid hroom,
          compile_of_checked (hname'.trans hname) (hvalid'.trans hvalid) hroom, hsets]
        rfl
      · rw [compile_of_overbooked hname hvalid hroom,
          compile_of_overbooked (hname'.trans hname) (hvalid'.trans hvalid) hroom]

/-- Templates that no replica selects do not matter. A library that answers alike under the selected
names gives the same objects or the same fault; so does one that comes from declarations changing
places, from shadowed ones going or coming, and from unselected ones going or coming. -/
theorem compile_withTemplates (i : Installation) (o : Options) (library : TemplateLibrary) :
    (i.spec.AnswersAlike library →
      ((i.withTemplates library).compile o).outcome = (i.compile o).outcome) ∧
    (Relation.EqvGen (Rearranged PodDeclaration.name i.spec.SelectsPod) i.spec.templates.pods
        library.pods →
      Relation.EqvGen (Rearranged ClaimDeclaration.name i.spec.SelectsClaim)
        i.spec.templates.claims library.claims →
      ((i.withTemplates library).compile o).outcome = (i.compile o).outcome) :=
  ⟨fun h => outcome_compile_withTemplates h o, fun hpods hclaims =>
    outcome_compile_withTemplates (Spec.answersAlike_of_rearranged hpods hclaims) o⟩

/-- A library with an empty template in front that has a name of the library's own, and one behind
that nobody selects. -/
def cluttered (l : TemplateLibrary) : TemplateLibrary :=
  { l with pods := ⟨"server", [], []⟩ :: l.pods ++ [⟨"bare", [], []⟩] }

theorem compile_furnished_cluttered :
    ∃ objects, (furnished.compile .none).outcome = .ok objects ∧
      ((furnished.withTemplates (cluttered furnished.spec.templates)).compile .none).outcome =
        .ok objects ∧
      ((furnished.withTemplates
        (cluttered (cluttered furnished.spec.templates))).compile .none).outcome = .ok objects := by
  obtain ⟨objects, hobjects⟩ := exists_compile_furnished
  have hpod : ∀ name, furnished.spec.SelectsPod name → name = "server" := by
    rintro name ⟨p, hp, hname⟩
    rw [selection_furnished p hp] at hname
    exact (Option.some.inj hname).symm
  have hbare : ¬furnished.spec.SelectsPod "bare" := fun h => absurd (hpod _ h) (by decide)
  refine ⟨objects, hobjects, ?_, ?_⟩
  · rw [← hobjects]
    have hshadowed : Rearranged PodDeclaration.name furnished.spec.SelectsPod
        (cluttered furnished.spec.templates).pods (furnished.spec.templates.pods ++
          [⟨"bare", [], []⟩]) :=
      .shadowed [] _ _ ⟨_, List.mem_cons_self, rfl⟩
    have hunused : Rearranged PodDeclaration.name furnished.spec.SelectsPod
        (furnished.spec.templates.pods ++ [⟨"bare", [], []⟩]) furnished.spec.templates.pods :=
      .unused furnished.spec.templates.pods _ [] hbare
    exact (compile_withTemplates furnished .none _).2
      (.symm _ _ (.trans _ _ _ (.rel _ _ hshadowed) (.rel _ _ hunused))) (.refl _)
  · rw [← hobjects]
    refine (compile_withTemplates furnished .none _).1 ⟨?_, fun _ _ => rfl⟩
    intro name hname
    rw [hpod name hname]
    rfl

end Installation

end ShardManifest
