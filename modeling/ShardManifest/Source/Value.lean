import ShardManifest.Document
import ShardManifest.Source.Node
import ShardManifest.Text.Dictionary

/-!
# Values of any kind

Where a member may hold a value of any kind, a node is taken as it is. Its mappings are put into the
order of their names.

## Main definitions

- `Document.ofEntries`: a mapping in the order of its names
- `Node.document?`: a node as a document
-/

namespace ShardManifest

/-- A mapping in the order of its names, with the last of several values of one name. -/
def Document.ofEntries (entries : List (String × Document)) : Document :=
  .mapping (Dictionary.ofList entries).entries

namespace Node

/-- A scalar as a document. Words beyond 64 bits have no such form, and what is no finite number
becomes null. -/
def scalarDocument? (s : Scalar) : Option Document := do
  match ← s.literal? with
  | .null => some .null
  | .bool b => some (.bool b)
  | .integer n => if Int64.minValue.toInt ≤ n ∧ n < UInt64.size then some (.integer n) else none
  | .float x => some (if x.isFinite then .float x else .null)
  | .text t => some (.text t)

mutual

/-- A node as a document; tags of the document's own have no such form. -/
def document? : Node → Option Document
  | .scalar s => scalarDocument? s
  | .list tag items =>
    if tag.any isLocalTag then none else (documents? items).map .list
  | .mapping tag entries =>
    if tag.any isLocalTag then none else (documentEntries? entries).map .ofEntries
  | .endless => none

/-- The documents of a row of nodes. -/
def documents? : List Node → Option (List Document)
  | [] => some []
  | node :: rest => do
    let d ← document? node
    let ds ← documents? rest
    return d :: ds

/-- The named documents of the entries of a mapping. -/
def documentEntries? : List (Node × Node) → Option (List (String × Document))
  | [] => some []
  | (key, value) :: rest => do
    let name ← key.text?
    let d ← document? value
    let ds ← documentEntries? rest
    return (name, d) :: ds

end

end Node

end ShardManifest
