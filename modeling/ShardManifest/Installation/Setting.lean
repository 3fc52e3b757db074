import ShardManifest.Document
import ShardManifest.Number.Shortest
import ShardManifest.Source.Node
import ShardManifest.Text.Dictionary

/-!
# Settings

A server setting is a scalar or a list of texts. Its values are the texts that become elements of a
configuration file: one for a scalar, one an item for a list.

## Main definitions

- `Setting`, `Settings`
- `Setting.displayed`: a setting as one text
- `Setting.values`: the texts of its elements
-/

namespace ShardManifest

/-- Numbers in configuration files are written without exponent, and whole ones without point. -/
def settingNumbers : NumberStyle where
  tie := .away
  positional _ := true
  wholeMark := ""
  infinity := "inf"
  nan := "NaN"

inductive Setting where
  | bool (value : Bool)
  /-- A whole number that a signed 64-bit word holds. -/
  | integer (value : Int64)
  | unsigned (value : UInt64)
  | float (value : Binary64)
  | text (value : String)
  /-- Texts, one an element. -/
  | list (items : List String)
deriving DecidableEq, Repr

namespace Setting

/-- A setting as one text; the items of a list are separated by commas. -/
def displayed : Setting → String
  | bool b => if b then "true" else "false"
  | integer n => toString n.toInt
  | unsigned n => toString n.toNat
  | float x => x.text settingNumbers
  | text s => s
  | list items => ",".intercalate items

/-- The texts of the elements that a setting becomes. -/
def values : Setting → List String
  | list items => items
  | scalar => [scalar.displayed]

/-- A setting that is a scalar. A whole number is signed if it fits, else unsigned. -/
def ofLiteral? : Literal → Option Setting
  | .null => none
  | .bool b => some (bool b)
  | .integer n =>
    if Int64.minValue.toInt ≤ n ∧ n ≤ Int64.maxValue.toInt then some (integer (Int64.ofInt n))
    else if Int64.maxValue.toInt < n ∧ n < UInt64.size then some (unsigned (UInt64.ofNat n.toNat))
    else none
  | .float x => some (float x)
  | .text s => some (text s)

/-- A node that stands for a text also where any kind may stand. -/
def item? : Node → Option String
  | .scalar s => match s.literal? with
    | some (.text t) => some t
    | _ => none
  | _ => none

/-- Reads a setting; its kind is that of the node. -/
def read? : Node → Option Setting
  | .scalar s => s.literal? >>= ofLiteral?
  | .list tag items =>
    if tag.any isLocalTag then none else (items.mapM item?).map list
  | _ => none

def document : Setting → Document
  | bool b => .bool b
  | integer n => .integer n.toInt
  | unsigned n => .integer n.toNat
  | float x => .float x
  | text s => .text s
  | list items => .list (items.map .text)

end Setting

/-- Settings by path; the segments of a path are separated by slashes. -/
abbrev Settings := Dictionary Setting

namespace Settings

/-- Reads settings; of several with one path the last counts. -/
def read? (node : Node) : Option Settings := do
  let entries ← node.entries?
  let read ← entries.mapM fun e => (Setting.read? e.2).map (e.1, ·)
  return Dictionary.ofList read

/-- Writes settings as a member, unless there are none. -/
def member (name : String) (s : Settings) : List (String × Document) :=
  if s.isEmpty then [] else [(name, .mapping (s.entries.map fun e => (e.1, e.2.document)))]

end Settings

end ShardManifest
