/-!
# Character data and element names

Character data is written with the five predefined entities. An element name is written as it is,
so only names that need no escape anywhere are accepted.

## Main definitions

- `Xml.escape`: a text as character data
- `Xml.isElementName`: the names that may stand in a tag
-/

namespace ShardManifest.Xml

def escapeChar : Char → List Char
  | '&' => "&amp;".toList
  | '<' => "&lt;".toList
  | '>' => "&gt;".toList
  | '"' => "&quot;".toList
  | '\'' => "&apos;".toList
  | c => [c]

def escape (text : String) : String :=
  String.ofList (text.toList.flatMap escapeChar)

/-- An ASCII letter or an underscore. -/
def isNameStart (c : Char) : Bool := c.isAlpha || c = '_'

/-- What may follow in a name. -/
def isNameChar (c : Char) : Bool := c.isAlphanum || c = '_' || c = '-' || c = '.'

/-- Whether a text can stand in a tag. -/
def isElementName (name : String) : Bool :=
  match name.toList with
  | [] => false
  | first :: rest => isNameStart first && rest.all isNameChar

end ShardManifest.Xml
