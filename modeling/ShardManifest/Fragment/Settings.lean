import ShardManifest.Installation.Setting
import ShardManifest.Log.Event
import ShardManifest.Xml.Writer

/-!
# Settings as a fragment

The path of a setting is cut at its slashes into segments, which become nested elements around the
setting's values. Paths that come to the same segments share their elements. A path without segments,
or with a segment that cannot be an element, is reported and left out.

## Main definitions

- `Settings.segments`: the segments of a path
- `SettingTree`: values by path, and `SettingTree.insert`
- `SettingTree.elements`: a tree as elements
- `Fragment.settings`: settings as the text of a fragment
-/

namespace ShardManifest

namespace Settings

/-- The pieces of a text between its slashes. -/
def pieces : List Char → List (List Char)
  | [] => [[]]
  | c :: rest =>
    if c = '/' then [] :: pieces rest
    else
      match pieces rest with
      | [] => [[c]]
      | piece :: more => (c :: piece) :: more

/-- The segments of a path: the pieces between its slashes that are not empty. -/
def segments (path : String) : List String :=
  ((pieces path.toList).filter fun piece => !piece.isEmpty).map String.ofList

end Settings

inductive SettingTree where
  /-- The values at a path, and the trees below it by the next segment, in ascending order. -/
  | node (values : List String) (children : List (String × SettingTree))
deriving Repr

namespace SettingTree

def empty : SettingTree := node [] []

def children : SettingTree → List (String × SettingTree)
  | node _ children => children

/-- Adds values behind those that a path has. -/
def insert (added : List String) : (path : List String) → SettingTree → SettingTree
  | [], node values children => node (values ++ added) children
  | segment :: rest, node values children =>
    node values
      (insertEntry segment (insert added rest ((children.lookup segment).getD empty)) children)

/-- The tree of entries that are entered one after the other; those whose path is no row of elements
are reported. -/
def enterAll : SettingTree → List (String × Setting) → Logged SettingTree
  | tree, [] => pure tree
  | tree, (path, setting) :: rest => do
    let segments := Settings.segments path
    if segments.isEmpty then
      Logged.report (.pathEmpty path)
      enterAll tree rest
    else
      match segments.find? fun s => !Xml.isElementName s with
      | some bad =>
        Logged.report (.pathInvalid path bad)
        enterAll tree rest
      | none => enterAll (tree.insert setting.values segments) rest

def ofSettings (s : Settings) : Logged SettingTree :=
  enterAll empty s.entries

mutual

/-- The elements of a tree that stands below a segment: one for each value, and one that holds the
elements below it, if there is a tree below it. -/
def elements (tag : String) : SettingTree → List Xml.Element
  | node values children =>
    values.map (.leaf tag)
      ++ (if children.isEmpty then [] else [.branch tag (elementsOfAll children)])

/-- The elements of a row of trees. -/
def elementsOfAll : List (String × SettingTree) → List Xml.Element
  | [] => []
  | (tag, tree) :: rest => elements tag tree ++ elementsOfAll rest

end

end SettingTree

namespace Fragment

/-- Settings as the text of a fragment, inside a section if one is given; empty if no path is left. -/
def settings (section? : Option String) (s : Settings) : Logged String := do
  let tree ← SettingTree.ofSettings s
  if tree.children.isEmpty then return ""
  let elements := SettingTree.elementsOfAll tree.children
  return Xml.document <|
    match section? with
    | some tag => [.branch tag elements]
    | none => elements

end Fragment

end ShardManifest
