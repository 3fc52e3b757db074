import ShardManifest.Proofs.DictionaryRuns
import ShardManifest.TemplateIndex

/-!
# What the template index answers

Of several templates with one name the last declared counts. The index of a library answers with
what that declaration puts into a pod or asks for, so it does not matter what else was declared under
the name, or where. A claim that is declared without a name of its own gets the name of the data
volume; one that merely has that name does not count as such a claim.

## Main definitions

- `TemplateLibrary.pod?`, `TemplateLibrary.claim?`: the declaration that counts under a name
- `ClaimDeclaration.ownName?`, `ClaimDeclaration.resolved`: what the declaration of a claim comes to
- `TemplateIndex.HoldsLast`: an index answers for the last declaration of each name

## Main results

- `TemplateIndex.get?_pods_ofLibrary`, `TemplateIndex.get?_claims_ofLibrary`
- `TemplateIndex.holdsLast_ofLibrary`: the index of a library holds the last declarations
-/

namespace ShardManifest

open Kubernetes

namespace TemplateLibrary

/-- The pod template that counts under a name. -/
def pod? (l : TemplateLibrary) (name : String) : Option PodDeclaration :=
  lastNamed PodDeclaration.name l.pods name

/-- The claim template that counts under a name. -/
def claim? (l : TemplateLibrary) (name : String) : Option ClaimDeclaration :=
  lastNamed ClaimDeclaration.name l.claims name

end TemplateLibrary

/-! ### Claims -/

namespace ClaimDeclaration

/-- The name that a claim has of its own, if it is declared with one; the reserved name is none. -/
def ownName? (c : ClaimDeclaration) : Option String :=
  c.claim.metadata.name.filter fun name => name ≠ "USE_DEFAULT_NAME"

/-- The claim that a declaration comes to: its labels and its specification are the declared
ones. -/
def resolved (c : ClaimDeclaration) : Claim :=
  ⟨⟨c.ownName?.getD "clickhouse-data", c.claim.metadata.labels⟩, c.claim.spec⟩

theorem ownName?_eq_none_iff {c : ClaimDeclaration} :
    c.ownName? = none ↔
      c.claim.metadata.name = none ∨ c.claim.metadata.name = some "USE_DEFAULT_NAME" := by
  rw [ownName?]
  cases c.claim.metadata.name <;> simp

theorem claimName_named (c : ClaimDeclaration) :
    c.named.claimName = c.ownName?.elim .useDefault .explicit := by
  rw [named, ownName?]
  cases c.claim.metadata.name with
  | none => rfl
  | some name =>
    by_cases h : name = "USE_DEFAULT_NAME" <;>
      simp [ClaimName.ofDeclared, ClaimName.placeholder, Option.filter_some, h]

theorem claim_named (c : ClaimDeclaration) : c.named.claim = c.resolved := by
  rw [NamedClaim.claim, claimName_named, resolved]
  cases c.ownName? <;> rfl

theorem usesDefault_named (c : ClaimDeclaration) :
    c.named.usesDefault = decide (c.ownName? = none) := by
  rw [NamedClaim.usesDefault, claimName_named]
  cases c.ownName? <;> rfl

/-- The claim of a declaration is told by what it comes to and by whether it backs the data
directory. -/
theorem eq_named_iff {c : ClaimDeclaration} {found : NamedClaim} :
    found = c.named ↔
      found.claim = c.resolved ∧ (found.usesDefault = true ↔ c.ownName? = none) := by
  constructor
  · rintro rfl
    rw [claim_named, usesDefault_named, decide_eq_true_iff]
    exact ⟨rfl, Iff.rfl⟩
  · obtain ⟨claimName, labels, spec⟩ := found
    rintro ⟨hclaim, hdefault⟩
    have hvolume : claimName.volume = c.ownName?.getD "clickhouse-data" :=
      congrArg (·.metadata.name) hclaim
    have hlabels : labels = c.claim.metadata.labels := congrArg (·.metadata.labels) hclaim
    have hspec : spec = c.claim.spec := congrArg Claim.spec hclaim
    have hname : claimName = c.named.claimName := by
      rw [claimName_named]
      cases claimName with
      | useDefault => rw [hdefault.1 rfl, Option.elim_none]
      | explicit name =>
        cases hown : c.ownName? with
        | none => exact absurd (hdefault.2 hown) (by simp [NamedClaim.usesDefault])
        | some own =>
          rw [hown] at hvolume
          exact congrArg ClaimName.explicit hvolume
    rw [hname, hlabels, hspec]
    rfl

end ClaimDeclaration

/-! ### The index of a library -/

/-- Entering declarations one after the other is a run of insertions. -/
theorem value_enterAll {α β : Type} (name : α → String) (value : α → β)
    (repeated : String → Event) (d : Dictionary β) (l : List α) :
    (enterAll name value repeated d l).value =
      l.foldl (fun d a => d.insert (name a) (value a)) d := by
  induction l generalizing d with
  | nil => rfl
  | cons a l ih =>
    rw [List.foldl_cons, ← ih, enterAll]
    split <;> rfl

/-- Declarations that are entered into an empty index answer for the last one of each name. -/
theorem get?_value_enterAll {α β : Type} (name : α → String) (value : α → β)
    (repeated : String → Event) (l : List α) (key : String) :
    (enterAll name value repeated .empty l).value.get? key = (lastNamed name l key).map value := by
  rw [value_enterAll, Dictionary.get?_foldl_insert, Dictionary.get?_empty, Option.or_none]

/-- There are as many entries as there are names. -/
theorem size_value_enterAll {α β : Type} (name : α → String) (value : α → β)
    (repeated : String → Event) (l : List α) :
    (enterAll name value repeated .empty l).value.size = (l.map name).toFinset.card := by
  refine Dictionary.size_eq_card fun key => ?_
  rw [Dictionary.mem_keys_iff, get?_value_enterAll, ← Option.isSome_iff_exists, Option.isSome_map,
    Option.isSome_iff_exists, exists_lastNamed_eq_some_iff, List.mem_map]

namespace TemplateIndex

theorem get?_pods_ofLibrary (l : TemplateLibrary) (name : String) :
    (ofLibrary l).value.pods.get? name = (l.pod? name).map PodDeclaration.content :=
  get?_value_enterAll PodDeclaration.name PodDeclaration.content .podTemplateRepeated l.pods name

theorem get?_claims_ofLibrary (l : TemplateLibrary) (name : String) :
    (ofLibrary l).value.claims.get? name = (l.claim? name).map ClaimDeclaration.named :=
  get?_value_enterAll ClaimDeclaration.name ClaimDeclaration.named .claimTemplateRepeated l.claims
    name

/-- An index answers for the last declaration of each name in a library. -/
structure HoldsLast (index : TemplateIndex) (l : TemplateLibrary) : Prop where
  pod : ∀ name content, index.pods.get? name = some content ↔
    ∃ p, IsLastNamed PodDeclaration.name l.pods name p ∧ content = ⟨p.containers, p.volumes⟩
  noPod : ∀ name, index.pods.get? name = none ↔ ∀ p ∈ l.pods, p.name ≠ name
  /-- Of a declared claim the labels and the specification are kept. Its name gives way to that of
  the data volume, and it backs the data directory, exactly if none or the reserved one is
  declared. -/
  claim : ∀ name found, index.claims.get? name = some found ↔
    ∃ c, IsLastNamed ClaimDeclaration.name l.claims name c ∧
      found.claim = ⟨⟨c.ownName?.getD "clickhouse-data", c.claim.metadata.labels⟩, c.claim.spec⟩ ∧
      (found.usesDefault = true ↔
        c.claim.metadata.name = none ∨ c.claim.metadata.name = some "USE_DEFAULT_NAME")
  noClaim : ∀ name, index.claims.get? name = none ↔ ∀ c ∈ l.claims, c.name ≠ name
  podCount : index.pods.size = (l.pods.map PodDeclaration.name).toFinset.card
  claimCount : index.claims.size = (l.claims.map ClaimDeclaration.name).toFinset.card

/-- Whatever a library declares, in any order and under any names, its index holds the last
declaration of each name and no other. -/
theorem holdsLast_ofLibrary (l : TemplateLibrary) : (ofLibrary l).value.HoldsLast l where
  pod := by
    intro name content
    rw [get?_pods_ofLibrary, Option.map_eq_some_iff]
    simp only [TemplateLibrary.pod?, lastNamed_eq_some_iff, eq_comm (b := content)]
    rfl
  noPod := by
    intro name
    rw [get?_pods_ofLibrary, Option.map_eq_none_iff, TemplateLibrary.pod?, lastNamed_eq_none_iff]
  claim := by
    intro name found
    rw [get?_claims_ofLibrary, Option.map_eq_some_iff]
    simp only [TemplateLibrary.claim?, lastNamed_eq_some_iff, eq_comm (b := found),
      ClaimDeclaration.eq_named_iff, ClaimDeclaration.ownName?_eq_none_iff]
    rfl
  noClaim := by
    intro name
    rw [get?_claims_ofLibrary, Option.map_eq_none_iff, TemplateLibrary.claim?,
      lastNamed_eq_none_iff]
  podCount := size_value_enterAll _ _ _ _
  claimCount := size_value_enterAll _ _ _ _

end TemplateIndex

end ShardManifest
