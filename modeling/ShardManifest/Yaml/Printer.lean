import ShardManifest.Document
import ShardManifest.Number.Shortest
import ShardManifest.Yaml.Scalar

/-!
# Documents as YAML texts

Collections are written as blocks: a member is a line that begins with its name, an item one that
begins with a hyphen, and what belongs to either follows on lines that are two blanks further to the
right. The items of a list that is a member begin at the margin of the member. Empty collections and
scalars stay on the line of their name or hyphen; a name that is too long for a line or has several
lines gets a line of its own.

## Main definitions

- `Yaml.nest`: lines moved to the right
- `Yaml.text`: a document as a text of YAML
- `Yaml.print`: the same as a whole file
-/

namespace ShardManifest.Yaml

/-- Moves every line two blanks to the right, except that the first line stays if the text continues
one; a line without characters stays empty. -/
def nest (atStart : Bool) : List Char → List Char
  | [] => []
  | c :: rest =>
    if isBreak c then c :: nest true rest
    else if atStart then ' ' :: ' ' :: c :: nest false rest
    else c :: nest false rest

/-- Ends the last line of a text. -/
def endLine (cs : List Char) : List Char :=
  match cs.getLast? with
  | some c => if isBreak c then cs else cs ++ ['\n']
  | none => ['\n']

/-- A text behind a mark: its further lines stand two blanks to the right of the mark. -/
def behind (mark : String) (cs : List Char) : List Char :=
  endLine (mark.toList ++ nest false cs)

/-- Numbers are written with an exponent when their point is far from their digits. -/
def yamlNumbers : NumberStyle where
  tie := .even
  positional point := -5 < point && point ≤ 16
  wholeMark := ".0"
  infinity := ".inf"
  nan := ".nan"

/-- Whether a name can stand in front of its value. -/
def isSimpleKey (key : String) : Bool :=
  !key.toList.any isBreak && key.utf8ByteSize ≤ 128

/-- A member, given the text of its value. -/
def memberText (key : String) (value : Document) (text : List Char) : List Char :=
  let name := scalarText key
  if isSimpleKey key then
    match value with
    | .list (_ :: _) => name ++ ':' :: '\n' :: text
    | .mapping (_ :: _) => name ++ ':' :: '\n' :: nest true text
    | _ => endLine (name ++ ':' :: ' ' :: nest false text)
  else behind "? " name ++ behind ": " text

mutual

/-- A document as a text; that of a scalar or an empty collection has no end of line. -/
def text : Document → List Char
  | .null => "null".toList
  | .bool b => if b then "true".toList else "false".toList
  | .integer n => (toString n).toList
  | .float x => (x.text yamlNumbers).toList
  | .text s => scalarText s
  | .list [] => ['[', ']']
  | .list items => itemsText items
  | .mapping [] => ['\x7b', '\x7d']
  | .mapping members => membersText members

def itemsText : List Document → List Char
  | [] => []
  | item :: rest => behind "- " (text item) ++ itemsText rest

def membersText : List (String × Document) → List Char
  | [] => []
  | (key, value) :: rest => memberText key value (text value) ++ membersText rest

end

def print (d : Document) : String :=
  String.ofList (endLine (text d))

/-- Documents as one file, with a line of hyphens between them. -/
def printAll (ds : List Document) : String :=
  "---\n".intercalate (ds.map print)

end ShardManifest.Yaml
