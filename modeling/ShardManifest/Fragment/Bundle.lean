import ShardManifest.Fragment.Cluster
import ShardManifest.Fragment.Settings

/-!
# The shared fragments

All replicas of an installation share one bundle of fragments. A fragment without content does not
become a file.

## Main definitions

- `Bundle`, `Bundle.add`: fragments by filename
- `Bundle.compose`: the shared fragments of an installation
-/

namespace ShardManifest

structure Bundle where
  files : Dictionary String
deriving DecidableEq, Repr

namespace Bundle

def empty : Bundle := ⟨.empty⟩

/-- Puts a fragment in place of what its file held, unless the fragment is empty. -/
def add (b : Bundle) (filename content : String) : Logged Bundle :=
  if content.isEmpty then do
    Logged.report (.fragmentEmpty filename)
    return b
  else pure ⟨b.files.insert filename content⟩

/-- How the replicas of a specification name each other. -/
def addressing (inNamespace : String) (s : Spec) : Addressing :=
  if s.defaults.qualifiedHosts then .qualified inNamespace else .service

/-- The shared fragments of an installation. -/
def compose (installation inNamespace : String) (s : Spec) (t : Topology) : Logged Bundle := do
  let c := s.configuration
  let b ← empty.add File.remoteServers
    (Fragment.remoteServers t (addressing inNamespace s))
  let b ← b.add File.zookeeper (Fragment.zookeeper installation c.zookeeper)
  let b ← b.add File.users (← Fragment.settings (some "users") c.users)
  let b ← b.add File.profiles (← Fragment.settings (some "profiles") c.profiles)
  let b ← b.add File.quotas (← Fragment.settings (some "quotas") c.quotas)
  b.add File.settings (← Fragment.settings none c.settings)

end Bundle

end ShardManifest
