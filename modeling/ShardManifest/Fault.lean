/-!
# Faults

Most irregularities of an installation have a fallback. A `Fault` is what ends a compilation.
-/

namespace ShardManifest

/-- Why a compilation ends without objects. -/
inductive Fault where
  /-- The installation cannot be compiled as it is declared. -/
  | validation (detail : String)
  /-- A deployment selects a pod template that declares no containers. -/
  | emptyPodTemplate (template deployment : String)
  | invariant (detail : String)
  | serialization (detail : String)
  /-- No room can be made for the list of deployments. This is not reported: the program breaks
  off. -/
  | capacityOverflow
deriving DecidableEq, Repr

namespace Fault

def missingName : Fault :=
  validation "ClickHouseInstallation must have metadata.name"

/-- A cluster has a name that cannot become an element. -/
def clusterName (name : String) : Fault :=
  validation ("cluster name '" ++ name ++ "' must start with a letter or '_' and contain only " ++
    "letters, digits, '_', '-' and '.'")

/-- A deployment has no entry in the index of selections. -/
def unselected (deployment : String) : Fault :=
  invariant ("deployment " ++ deployment ++ " missing from fingerprint index")

def withoutMacros (deployment : String) : Fault :=
  invariant ("deployment " ++ deployment ++ " has no macros")

/-- A deployment selects a pod template that has no entry in the index of templates. -/
def unindexedPodTemplate (template deployment : String) : Fault :=
  invariant ("pod template '" ++ template ++ "' selected for " ++ deployment ++ " is not indexed")

/-- A deployment selects a claim template that has no entry in the index of templates. -/
def unindexedClaimTemplate (template deployment : String) : Fault :=
  invariant ("volume claim template '" ++ template ++ "' selected for " ++ deployment
    ++ " is not indexed")

def message : Fault → String
  | validation detail => "validation error: " ++ detail
  | emptyPodTemplate template deployment =>
    "pod template '" ++ template ++ "' selected for deployment " ++ deployment
      ++ " has no containers"
  | invariant detail => "internal invariant violated: " ++ detail
  | serialization detail => "serialization error: " ++ detail
  | capacityOverflow => "capacity overflow"

end Fault

end ShardManifest
