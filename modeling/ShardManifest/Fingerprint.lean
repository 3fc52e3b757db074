import ShardManifest.Digest.Sha256
import ShardManifest.Installation.Selection

/-!
# Fingerprints

The fingerprint of a selection is the digest of a text that spells both of its names: the number of
bytes of a name, a colon and the name, or a hyphen for a name that is not set, each closed by a
semicolon. A count in front of a name keeps a name that imitates the marks apart from the marks.

## Main definitions

- `Selection.encode`: the text that is digested
- `Fingerprint.of`, `Fingerprint.short`: the fingerprint, and what of it enters an identifier
-/

namespace ShardManifest

namespace Selection

/-- A name, or that there is none. -/
def encodeName : Option String → String
  | some name => toString name.utf8ByteSize ++ ":" ++ name ++ ";"
  | none => "-;"

def encode (s : Selection) : String :=
  encodeName s.podTemplate ++ encodeName s.claimTemplate

end Selection

structure Fingerprint where
  hex : String
deriving DecidableEq, Repr

namespace Fingerprint

def of (s : Selection) : Fingerprint :=
  ⟨Sha256.hex (Sha256.digest s.encode.toUTF8.data.toList)⟩

/-- How many digits of a fingerprint enter an identifier. -/
def shortLength : Nat := 6

/-- The digits of a fingerprint that enter an identifier. -/
def short (f : Fingerprint) : String :=
  String.ofList (f.hex.toList.take shortLength)

end Fingerprint

end ShardManifest
