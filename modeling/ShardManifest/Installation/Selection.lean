import ShardManifest.Document
import ShardManifest.Source.Record

/-!
# Template selections

A selection names the pod template and the claim template of a replica. It can be set for the
installation, a cluster, a shard and a replica; the innermost level that sets a name decides it, each
name on its own.

## Main definitions

- `Selection`, `Selection.mergedOver`: one selection laid over another
-/

namespace ShardManifest

/-- The templates that a level selects. -/
structure Selection where
  /-- The pod template, if set. -/
  podTemplate : Option String
  /-- The claim template, if set. -/
  claimTemplate : Option String
deriving DecidableEq, Repr, Inhabited

namespace Selection

def unset : Selection := ⟨none, none⟩

/-- An inner selection laid over an outer one: what the inner one leaves unset shows through. -/
def mergedOver (inner outer : Selection) : Selection where
  podTemplate := inner.podTemplate.or outer.podTemplate
  claimTemplate := inner.claimTemplate.or outer.claimTemplate

@[simp] theorem mergedOver_unset (s : Selection) : s.mergedOver .unset = s := by
  simp [mergedOver, unset]

def read? (node : Node) : Option Selection := do
  let m ← node.members? ["podTemplate", "volumeClaimTemplate"]
  return {
    podTemplate := ← m.optional? "podTemplate" Node.text?
    claimTemplate := ← m.optional? "volumeClaimTemplate" Node.text? }

def document (s : Selection) : Document :=
  .mapping <|
    Document.whenSet "podTemplate" .text s.podTemplate
    ++ Document.whenSet "volumeClaimTemplate" .text s.claimTemplate

end Selection

end ShardManifest
