import ShardManifest.Source.Plain

/-!
# What a reader finds

JSON and YAML are read into the same trees. In JSON the syntax fixes what a scalar is; in YAML that
depends on what is asked for: the plain scalar `1.10` is a number where any value may stand and the
text `1.10` where a text is wanted. A `Scalar` therefore keeps what was written, and the questions
that a target can ask are functions on it.

## Main definitions

- `Scalar`, `Node`: scalars as written, and trees of them
- `Scalar.literal?`: the value where any kind may stand
- `Node.text?`, `Node.bool?`, `Node.integer?`, `Node.natural?`: the value where one kind is wanted
- `Node.items?`, `Node.entries?`: the parts of collections, where an empty value has none
- `Node.optional?`: a value that may be left out
-/

namespace ShardManifest

/-- How a YAML scalar is written. -/
inductive ScalarStyle where
  | plain
  | quoted
  /-- As a block whose line breaks are kept. -/
  | literal
  /-- As a block whose line breaks are folded. -/
  | folded
deriving DecidableEq, Repr

/-- The names of the tags that force a kind. -/
def coreTag (kind : String) : String := "tag:yaml.org,2002:" ++ kind

/-- Whether a tag is one of the document's own, which no value here has a use for. -/
def isLocalTag (tag : String) : Bool := tag.toList.head? = some '!'

/-- A scalar as it is written. -/
inductive Scalar where
  /-- A scalar whose kind the syntax fixes. -/
  | fixed (value : Literal)
  /-- A scalar of a YAML text, with the tag before it. -/
  | written (text : String) (style : ScalarStyle) (tag : Option String)
deriving DecidableEq, Repr

namespace Scalar

/-- The value where any kind may stand; none if the tag contradicts the text. -/
def literal? : Scalar → Option Literal
  | fixed value => some value
  | written text style none =>
    some (if style = .plain then Plain.literal text else .text text)
  | written text _ (some tag) =>
    if tag = coreTag "bool" then (Plain.bool? text).map .bool
    else if tag = coreTag "int" then (Plain.integer? text).map .integer
    else if tag = coreTag "float" then (Plain.float? text).map .float
    else if tag = coreTag "null" then if Plain.isNullWord text then some .null else none
    else if isLocalTag tag then none
    else some (.text text)

/-- The value where one kind is wanted. Tags count only for blocks, and only the wanted one. -/
def wanted (kind : String) : Scalar → Literal
  | fixed value => value
  | written text .plain _ => Plain.literal text
  | written text .literal (some tag) => if tag = coreTag kind then Plain.literal text else .text text
  | written text _ _ => .text text

/-- The text of a scalar where a text is wanted: in YAML whatever is written. -/
def text? : Scalar → Option String
  | fixed (.text s) => some s
  | fixed _ => none
  | written text _ _ => some text

/-- Whether nothing at all is written, which stands for an empty collection. -/
def isBlank : Scalar → Bool
  | written text .plain _ => text.isEmpty
  | _ => false

/-- Whether a value that may be left out is left out; none if the tag contradicts the text. -/
def isAbsent? : Scalar → Option Bool
  | fixed value => some (value = .null)
  | written text .plain none => some (text.isEmpty || Plain.isNullWord text)
  | written text .plain (some tag) =>
    if tag = coreTag "null" then if Plain.isNullWord text then some true else none
    else some false
  | _ => some false

/-- The name of an alternative: a text, or a tag of the document's own before nothing. -/
def choice? : Scalar → Option String
  | written text style (some tag) =>
    if isLocalTag tag then
      if style = .plain ∧ (text.isEmpty ∨ Plain.isNullWord text) then
        some (String.ofList (tag.toList.drop 1))
      else none
    else some text
  | s => s.text?

/-- Whether a number is written with a minus sign. -/
def hasMinus : Scalar → Bool
  | written text _ _ => text.toList.head? = some '-'
  | fixed _ => false

end Scalar

inductive Node where
  | scalar (value : Scalar)
  /-- Nodes in order, with the tag before them. -/
  | list (tag : Option String) (items : List Node)
  /-- Pairs of nodes in order, with the tag before them. -/
  | mapping (tag : Option String) (entries : List (Node × Node))
  | endless
deriving Repr, Inhabited

namespace Node

/-- The text where a text is wanted. -/
def text? : Node → Option String
  | scalar s => s.text?
  | _ => none

/-- The name of an alternative where one of several is wanted. -/
def choice? : Node → Option String
  | scalar s => s.choice?
  | _ => none

/-- The truth value where one is wanted. -/
def bool? : Node → Option Bool
  | scalar s => match s.wanted "bool" with
    | .bool b => some b
    | _ => none
  | _ => none

/-- The whole number where one is wanted. -/
def integer? : Node → Option Int
  | scalar s => match s.wanted "int" with
    | .integer n => some n
    | _ => none
  | _ => none

/-- The whole number below a bound where one without sign is wanted. -/
def natural? (bound : Nat) : Node → Option Nat
  | scalar s => match s.wanted "int" with
    | .integer (.ofNat n) => if n < bound ∧ ¬s.hasMinus then some n else none
    | _ => none
  | _ => none

/-- The items where a list is wanted. -/
def items? : Node → Option (List Node)
  | list _ items => some items
  | scalar s => if s.isBlank then some [] else none
  | _ => none

/-- The entries where a mapping is wanted, under the texts of their keys. -/
def entries? : Node → Option (List (String × Node))
  | mapping _ entries => entries.mapM fun e => e.1.text?.map (·, e.2)
  | scalar s => if s.isBlank then some [] else none
  | _ => none

/-- The value of a node that may be left out. -/
def optional? {α : Type} (read : Node → Option α) : Node → Option (Option α)
  | scalar s => match s.isAbsent? with
    | some true => some none
    | some false => (read (scalar s)).map some
    | none => none
  | node => (read node).map some

/-- The values of a list, each read alike. -/
def listOf? {α : Type} (read : Node → Option α) (node : Node) : Option (List α) := do
  let items ← node.items?
  items.mapM read

end Node

end ShardManifest
