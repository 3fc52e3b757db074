import ShardManifest.Source.Node

/-!
# Trees with references

A YAML text can name a node and refer to it elsewhere. In a `Tree` the names have become numbers; a
number that several nodes bear refers to the last of them. Expanding a tree puts the nodes in the
place of the references to them. What would contain itself does not end, and a text whose references
repeat more than a hundred times what it says is refused.

## Main definitions

- `Yaml.Tree`, `Yaml.Tree.find?`
- `Yaml.Tree.expand?`: the node behind a tree
-/

namespace ShardManifest.Yaml

/-- What is said about a node before the node. -/
structure Properties where
  /-- The number by which references find it. -/
  anchor : Option Nat
  tag : Option String
deriving DecidableEq, Repr

def Properties.none : Properties := ⟨.none, .none⟩

/-- A node, in which references stand for nodes. -/
inductive Tree where
  | scalar (properties : Properties) (text : String) (style : ScalarStyle)
  | list (properties : Properties) (items : List Tree)
  | mapping (properties : Properties) (entries : List (Tree × Tree))
  | repeats (anchor : Nat)
deriving Repr, Inhabited

namespace Tree

/-- A scalar of which nothing is written. -/
def blank (p : Properties) : Tree := scalar p "" .plain

mutual

/-- The last part of a tree, in the order of the text, that bears a number. -/
def find? (anchor : Nat) : Tree → Option Tree
  | scalar p text style => if p.anchor = some anchor then some (scalar p text style) else none
  | list p items =>
    (findItem? anchor items).or (if p.anchor = some anchor then some (list p items) else none)
  | mapping p entries =>
    (findPair? anchor entries).or
      (if p.anchor = some anchor then some (mapping p entries) else none)
  | repeats _ => none

/-- The last part of a row of trees that bears a number. -/
def findItem? (anchor : Nat) : List Tree → Option Tree
  | [] => none
  | t :: rest => (findItem? anchor rest).or (find? anchor t)

/-- The last part of a row of pairs that bears a number. -/
def findPair? (anchor : Nat) : List (Tree × Tree) → Option Tree
  | [] => none
  | (key, value) :: rest =>
    ((findPair? anchor rest).or (find? anchor value)).or (find? anchor key)

end

mutual

/-- How many marks and scalars a tree consists of. -/
def weight : Tree → Nat
  | scalar _ _ _ => 1
  | list _ items => itemsWeight items + 2
  | mapping _ entries => entriesWeight entries + 2
  | repeats _ => 1

/-- The same for a row of trees. -/
def itemsWeight : List Tree → Nat
  | [] => 0
  | t :: rest => weight t + itemsWeight rest

/-- The same for a row of pairs. -/
def entriesWeight : List (Tree × Tree) → Nat
  | [] => 0
  | (key, value) :: rest => weight key + weight value + entriesWeight rest

end

mutual

/-- Expands a tree that stands in a whole one. `depth` bounds how many references lie in each other,
`expanding` are those that do, and `jumps` is how many references may still be followed; the result
says how many are left. -/
def expandIn? (whole : Tree) (depth : Nat) (expanding : List Nat) (jumps : Nat) :
    Tree → Option (Node × Nat)
  | scalar p text style => some (.scalar (.written text style p.tag), jumps)
  | list p items => do
    let (nodes, jumps) ← expandItems? whole depth expanding jumps items
    return (.list p.tag nodes, jumps)
  | mapping p entries => do
    let (nodes, jumps) ← expandEntries? whole depth expanding jumps entries
    return (.mapping p.tag nodes, jumps)
  | repeats anchor =>
    if anchor ∈ expanding then some (.endless, jumps)
    else
      match jumps, depth with
      | jumps + 1, depth + 1 => do
        expandIn? whole depth (anchor :: expanding) jumps (← whole.find? anchor)
      | _, _ => none
termination_by t => (depth, sizeOf t)

def expandItems? (whole : Tree) (depth : Nat) (expanding : List Nat) (jumps : Nat) :
    List Tree → Option (List Node × Nat)
  | [] => some ([], jumps)
  | t :: rest => do
    let (node, jumps) ← expandIn? whole depth expanding jumps t
    let (nodes, jumps) ← expandItems? whole depth expanding jumps rest
    return (node :: nodes, jumps)
termination_by ts => (depth, sizeOf ts)

def expandEntries? (whole : Tree) (depth : Nat) (expanding : List Nat) (jumps : Nat) :
    List (Tree × Tree) → Option (List (Node × Node) × Nat)
  | [] => some ([], jumps)
  | (key, value) :: rest => do
    let (keyNode, jumps) ← expandIn? whole depth expanding jumps key
    let (valueNode, jumps) ← expandIn? whole depth expanding jumps value
    let (nodes, jumps) ← expandEntries? whole depth expanding jumps rest
    return ((keyNode, valueNode) :: nodes, jumps)
termination_by es => (depth, sizeOf es)

end

/-- The node behind a whole tree that bears as many numbers as given. -/
def expand? (anchors : Nat) (t : Tree) : Option Node :=
  (t.expandIn? anchors [] (100 * t.weight) t).map Prod.fst

end Tree

end ShardManifest.Yaml
