import ShardManifest.Json.Token
import ShardManifest.Source.Node
import ShardManifest.Text.Dictionary

/-!
# Reading JSON

The tokens of a text are folded into one node. An `Assembly` holds the collections that are open at
some point, innermost first, and what may come next. Of several members with one name the last
counts, and collections nest at most 127 deep.

## Main definitions

- `Json.read?`: the node that a text spells
-/

namespace ShardManifest.Json

/-- An open collection; items and entries are held newest first. -/
inductive Frame where
  | list (items : List Node)
  /-- A mapping, its entries, and the name of the value to come. -/
  | mapping (entries : List (String × Node)) (name : String)

inductive Expected where
  | value
  /-- The first item of a list, or its end. -/
  | itemOrEnd
  /-- The first name in a mapping, or its end. -/
  | nameOrEnd
  | name
  | colon
  /-- A comma, or the end of the innermost collection. -/
  | commaOrEnd
  | nothing (result : Node)

/-- The open collections, innermost first, and what may come next. -/
structure Assembly where
  frames : List Frame
  expected : Expected

def maxDepth : Nat := 127

/-- The node of a mapping whose entries are held newest first. -/
def mappingNode (entries : List (String × Node)) : Node :=
  .mapping none ((Dictionary.ofList entries.reverse).entries.map fun e =>
    (.scalar (.fixed (.text e.1)), e.2))

/-- Puts a complete value where it belongs. -/
def Assembly.put (frames : List Frame) (node : Node) : Assembly :=
  match frames with
  | [] => ⟨[], .nothing node⟩
  | .list items :: outer => ⟨.list (node :: items) :: outer, .commaOrEnd⟩
  | .mapping entries name :: outer => ⟨.mapping ((name, node) :: entries) "" :: outer, .commaOrEnd⟩

/-- Takes the first token of a value. -/
def Assembly.value (frames : List Frame) : Token → Option Assembly
  | .scalar value => some (put frames (.scalar (.fixed value)))
  | .openList =>
    if frames.length < maxDepth then some ⟨.list [] :: frames, .itemOrEnd⟩ else none
  | .openMapping =>
    if frames.length < maxDepth then some ⟨.mapping [] "" :: frames, .nameOrEnd⟩ else none
  | _ => none

def Assembly.close : List Frame → Token → Option Assembly
  | .list items :: outer, .closeList => some (put outer (.list none items.reverse))
  | .mapping entries _ :: outer, .closeMapping => some (put outer (mappingNode entries))
  | _, _ => none

/-- Takes the name of a member. -/
def Assembly.name : List Frame → Token → Option Assembly
  | .mapping entries _ :: outer, .scalar (.text name) =>
    some ⟨.mapping entries name :: outer, .colon⟩
  | _, _ => none

def Assembly.step (a : Assembly) (token : Token) : Option Assembly :=
  match a.expected with
  | .value => value a.frames token
  | .itemOrEnd => (close a.frames token).or (value a.frames token)
  | .nameOrEnd => (close a.frames token).or (name a.frames token)
  | .name => name a.frames token
  | .colon => if token = .colon then some ⟨a.frames, .value⟩ else none
  | .commaOrEnd =>
    match token, a.frames with
    | .comma, .list _ :: _ => some ⟨a.frames, .value⟩
    | .comma, .mapping _ _ :: _ => some ⟨a.frames, .name⟩
    | _, _ => close a.frames token
  | .nothing _ => none

/-- The node that a JSON text spells. -/
def read? (text : String) : Option Node := do
  let found ← tokens? text
  let a ← found.foldlM Assembly.step ⟨[], .value⟩
  match a.expected with
  | .nothing result => some result
  | _ => none

end ShardManifest.Json
