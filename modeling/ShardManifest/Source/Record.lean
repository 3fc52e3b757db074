import ShardManifest.Source.Node
import ShardManifest.Text.Dictionary

/-!
# Reading records

A record is read from a mapping of its members, or from a list of their values in order. Members
nobody asks for are ignored; one that is asked for may occur only once. A member is required, or may
be left out, or stands for a default when it is missing.

## Main definitions

- `Members`, `Node.members?`: the members of a record
- `Members.required?`, `Members.optional?`, `Members.orDefault?`: one member
- `Node.word16?`, `Node.word32?`, `Node.textMap?`: frequent kinds of member
-/

namespace ShardManifest

/-- The members of a record, as they are written. -/
abbrev Members := List (String × Node)

namespace Node

/-- The members of a record that knows the given names. -/
def members? (names : List String) : Node → Option Members
  | list _ items => if items.length ≤ names.length then some (names.zip items) else none
  | node => do
    let entries ← node.entries?
    if names.all fun name => (entries.filter fun e => e.1 = name).length ≤ 1 then some entries
    else none

/-- A whole number of sixteen bits without sign. -/
def word16? (node : Node) : Option UInt16 :=
  (node.natural? UInt16.size).map UInt16.ofNat

/-- A whole number of 32 bits without sign. -/
def word32? (node : Node) : Option UInt32 :=
  (node.natural? UInt32.size).map UInt32.ofNat

/-- Texts by name; of several with one name the last counts. -/
def textMap? (node : Node) : Option (Dictionary String) := do
  let entries ← node.entries?
  let read ← entries.mapM fun e => e.2.text?.map (e.1, ·)
  return Dictionary.ofList read

end Node

namespace Members

variable {α : Type}

/-- A member that has to be there. -/
def required? (members : Members) (name : String) (read : Node → Option α) : Option α := do
  read (← members.lookup name)

/-- A member that may be missing or null. -/
def optional? (members : Members) (name : String) (read : Node → Option α) :
    Option (Option α) :=
  match members.lookup name with
  | none => some none
  | some node => node.optional? read

/-- A member that stands for a default when it is missing. -/
def orDefault? (members : Members) (name : String) (default : α) (read : Node → Option α) :
    Option α :=
  match members.lookup name with
  | none => some default
  | some node => read node

end Members

end ShardManifest
