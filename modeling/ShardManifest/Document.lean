import ShardManifest.Number.Binary64

/-!
# Documents

A `Document` is a value ready to be written: the common form of everything that is printed as YAML
or handed on as JSON. The members of a mapping stand in the order in which they are written.
-/

namespace ShardManifest

/-- A value of a data format. -/
inductive Document where
  | null
  | bool (value : Bool)
  | integer (value : Int)
  | float (value : Binary64)
  | text (value : String)
  | list (items : List Document)
  | mapping (members : List (String × Document))
deriving Repr, Inhabited

namespace Document

/-- A member that is always written. -/
def always (name : String) (value : Document) : List (String × Document) :=
  [(name, value)]

/-- A member that is written when it is set. -/
def whenSet {α : Type} (name : String) (write : α → Document) (value : Option α) :
    List (String × Document) :=
  match value with
  | some v => [(name, write v)]
  | none => []

/-- A list that is written unless it is empty. -/
def whenAny {α : Type} (name : String) (write : α → Document) (items : List α) :
    List (String × Document) :=
  if items.isEmpty then [] else [(name, .list (items.map write))]

end Document

end ShardManifest
