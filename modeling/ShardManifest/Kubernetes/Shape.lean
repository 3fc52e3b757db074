import ShardManifest.Kubernetes.Timestamp
import ShardManifest.Source.Value

/-!
# Shapes of Kubernetes payloads

Containers, volumes and claims pass through the compiler with members it never looks at. A `Shape`
says which members such a payload has and what each may hold. Reading a node against a shape gives
the payload as a document in a normal form: members in alphabetical order, unknown ones dropped,
required ones filled in with the zero of their shape, timestamps in universal time.

## Main definitions

- `Shape`, `Field`: scalars, lists, maps and records
- `Shape.zero`: what a required member holds when it is left out
- `Shape.read?`: the normal form of a node
-/

namespace ShardManifest.Kubernetes

mutual

inductive Shape where
  | text
  | bool
  /-- A signed whole number of so many bits. -/
  | integer (bits : Nat)
  /-- A signed whole number of 32 bits, or a text. -/
  | integerOrText
  | timestamp
  | anything
  | list (item : Shape)
  | map (value : Shape)
  | record (fields : List Field)

inductive Field where
  /-- A member that may be left out. -/
  | optional (name : String) (shape : Shape)
  | required (name : String) (shape : Shape)

end

namespace Field

def name : Field → String
  | optional name _ | required name _ => name

end Field

/-- Whether a whole number fits so many bits with its sign. -/
def fits (bits : Nat) (n : Int) : Bool :=
  let half : Int := Nat.pow 2 (bits - 1)
  n < half && -half ≤ n

mutual

/-- What a required member holds when it is left out. -/
def Shape.zero : Shape → Document
  | .text | .timestamp => .text ""
  | .bool => .bool false
  | .integer _ | .integerOrText => .integer 0
  | .anything => .null
  | .list _ => .list []
  | .map _ => .mapping []
  | .record fields => .mapping (zeros fields)

/-- The required members of a record. -/
def zeros : List Field → List (String × Document)
  | [] => []
  | .optional _ _ :: rest => zeros rest
  | .required name shape :: rest => (name, shape.zero) :: zeros rest

end

/-- A whole number or a text, where a member takes either. -/
def integerOrText? : Node → Option Document
  | .scalar s =>
    match s.literal? with
    | some (.integer n) => if fits 32 n then some (.integer n) else none
    | some (.text t) => some (.text t)
    | _ => none
  | _ => none

/-- Reads every value that a name occurs with; the last one counts. -/
def lastOf? {α : Type} (read : Node → Option α) (name : String)
    (entries : List (String × Node)) : Option (Option α) := do
  let found ← (entries.filter fun e => e.1 = name).mapM fun e => e.2.optional? read
  return found.getLast?.join

mutual

/-- The normal form of a node of a given shape. -/
def Shape.read? : Shape → Node → Option Document
  | .text, node => node.text?.map .text
  | .bool, node => node.bool?.map .bool
  | .integer bits, node => do
    let n ← node.integer?
    if fits bits n then some (.integer n) else none
  | .integerOrText, node => integerOrText? node
  | .timestamp, node => do
    let t ← Timestamp.parse? (← node.text?)
    return .text t.text
  | .anything, node => node.document?
  | .list item, node => (node.listOf? item.read?).map .list
  | .map value, node => do
    let entries ← node.entries?
    let read ← entries.mapM fun e => (value.read? e.2).map (e.1, ·)
    return .ofEntries read
  | .record fields, node => do
    let entries ← node.entries?
    let members ← readFields? fields entries
    return .mapping members

/-- The members of a record, from the entries of a mapping. -/
def readFields? : List Field → List (String × Node) → Option (List (String × Document))
  | [], _ => some []
  | .optional name shape :: rest, entries => do
    let value ← lastOf? shape.read? name entries
    let members ← readFields? rest entries
    return match value with
      | some d => (name, d) :: members
      | none => members
  | .required name shape :: rest, entries => do
    let value ← lastOf? shape.read? name entries
    let members ← readFields? rest entries
    return (name, value.getD shape.zero) :: members

end

end ShardManifest.Kubernetes
