import ShardManifest.Installation.TemplateLibrary
import ShardManifest.Log.Event

/-!
# Templates by name

The index of a library holds its templates by name; of several with one name the last declared
counts. A claim that declares no name, or the reserved one, backs the data directory.

## Main definitions

- `ClaimName`: whether a claim backs the data directory
- `PodContent`, `NamedClaim`: what the index holds
- `TemplateIndex.ofLibrary`: the index of a library
-/

namespace ShardManifest

open Kubernetes

/-- How a claim names its volume. -/
inductive ClaimName where
  /-- By the volume that is mounted at the data directory. -/
  | useDefault
  /-- By a name of its own, to which containers refer themselves. -/
  | explicit (name : String)
deriving DecidableEq, Repr

namespace ClaimName

/-- The declared name that stands for the volume of the data directory. -/
def placeholder : String := "USE_DEFAULT_NAME"

def ofDeclared : Option String → ClaimName
  | none => useDefault
  | some name => if name = placeholder then useDefault else explicit name

def volume : ClaimName → String
  | useDefault => Names.dataVolume
  | explicit name => name

end ClaimName

/-- What a pod template puts into a pod. -/
structure PodContent where
  containers : List Container
  volumes : List Volume

/-- The content of a declared pod template. -/
def PodDeclaration.content (p : PodDeclaration) : PodContent :=
  ⟨p.containers, p.volumes⟩

/-- A claim that has its name. -/
structure NamedClaim where
  claimName : ClaimName
  labels : Texts
  spec : ClaimSpec

namespace NamedClaim

/-- Whether the claim backs the data directory. -/
def usesDefault (c : NamedClaim) : Bool := c.claimName = .useDefault

def claim (c : NamedClaim) : Claim :=
  ⟨⟨c.claimName.volume, c.labels⟩, c.spec⟩

end NamedClaim

/-- The claim of a declared template. -/
def ClaimDeclaration.named (c : ClaimDeclaration) : NamedClaim :=
  ⟨.ofDeclared c.claim.metadata.name, c.claim.metadata.labels, c.claim.spec⟩

/-- Enters declarations one after the other, and reports each that replaces another. -/
def enterAll {α β : Type} (name : α → String) (value : α → β) (repeated : String → Event) :
    Dictionary β → List α → Logged (Dictionary β)
  | index, [] => pure index
  | index, a :: rest => do
    if index.contains (name a) then Logged.report (repeated (name a))
    enterAll name value repeated (index.insert (name a) (value a)) rest

/-- The templates of an installation by name. -/
structure TemplateIndex where
  pods : Dictionary PodContent
  claims : Dictionary NamedClaim

namespace TemplateIndex

def ofLibrary (library : TemplateLibrary) : Logged TemplateIndex := do
  let pods ← enterAll PodDeclaration.name PodDeclaration.content .podTemplateRepeated .empty
    library.pods
  let claims ← enterAll ClaimDeclaration.name ClaimDeclaration.named .claimTemplateRepeated .empty
    library.claims
  return ⟨pods, claims⟩

end TemplateIndex

end ShardManifest
