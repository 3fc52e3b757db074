import ShardManifest.TemplateIndex
import ShardManifest.Topology

/-!
# Selections by deployment

Deployments with one fingerprint share one resolved selection, which is found when the first of them
is met. Resolving keeps the names that the library declares; any other name is reported and dropped.

## Main definitions

- `Selection.resolve`: the declared names of a selection
- `SelectionIndex`, `SelectionIndex.ofTopology`
-/

namespace ShardManifest

/-- A name if it is declared; if not, it is reported and dropped. -/
def resolveName {α : Type} (undeclared : String → Event) (declared : Dictionary α) :
    Option String → Logged (Option String)
  | none => pure none
  | some name =>
    if declared.contains name then pure (some name)
    else do
      Logged.report (undeclared name)
      return none

/-- The declared names of what a deployment selects. -/
def Selection.resolve (templates : TemplateIndex) (deployment : String) (s : Selection) :
    Logged Selection := do
  let pod ← resolveName (.podTemplateUndeclared deployment) templates.pods s.podTemplate
  let claim ← resolveName (.claimTemplateUndeclared deployment) templates.claims s.claimTemplate
  return ⟨pod, claim⟩

structure SelectionIndex where
  /-- The fingerprint of each deployment, as hexadecimal digits. -/
  fingerprints : Dictionary Fingerprint
  selections : Dictionary Selection

namespace SelectionIndex

def empty : SelectionIndex := ⟨.empty, .empty⟩

/-- Enters a replica; its selection is resolved unless its fingerprint has been met before. -/
def enter (templates : TemplateIndex) (index : SelectionIndex) (r : Replica) :
    Logged SelectionIndex := do
  let f := r.fingerprint
  let selections ←
    if index.selections.contains f.hex then pure index.selections
    else do
      let resolved ← r.selection.resolve templates r.deployment
      pure (index.selections.insert f.hex resolved)
  return ⟨index.fingerprints.insert r.deployment f, selections⟩

/-- Enters replicas one after the other. -/
def enterAll (templates : TemplateIndex) : SelectionIndex → List Replica → Logged SelectionIndex
  | index, [] => pure index
  | index, r :: rest => do enterAll templates (← index.enter templates r) rest

/-- The index of all replicas of a topology. -/
def ofTopology (t : Topology) (templates : TemplateIndex) : Logged SelectionIndex :=
  enterAll templates empty (t.placements.map Placement.replica)

def fingerprint? (index : SelectionIndex) (deployment : String) : Option Fingerprint :=
  index.fingerprints.get? deployment

/-- The resolved selection of a deployment. -/
def selection? (index : SelectionIndex) (deployment : String) : Option Selection := do
  index.selections.get? (← index.fingerprint? deployment).hex

/-- The deployments, ascending. -/
def deployments (index : SelectionIndex) : List String := index.fingerprints.keys

/-- How many different fingerprints there are. -/
def distinct (index : SelectionIndex) : Nat := index.selections.size

end SelectionIndex

end ShardManifest
