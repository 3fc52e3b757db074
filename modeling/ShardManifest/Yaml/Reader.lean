import ShardManifest.Yaml.Assembly
import ShardManifest.Yaml.Layout

/-!
# Reading YAML texts

## Main definitions

- `Yaml.read?`: the node of a text with one document
-/

namespace ShardManifest.Yaml

/-- The node that a text with one document spells. -/
def read? (text : String) : Option Node := do
  let (tree, anchors) ← document? (← tokens? text)
  tree.expand? anchors

end ShardManifest.Yaml
