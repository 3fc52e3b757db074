import ShardManifest.Xml.Escape

/-!
# Writing XML, one element a line

A `Writer` holds the text written so far and the number of open elements; every line begins with
four blanks for each. Its calls need not be balanced: a close tag below the root is written at the
margin. A tree of elements is written by the calls that `Element.calls` lists.

## Main definitions

- `Xml.Writer`, `Xml.Call`: the writer and what it is told
- `Xml.Element`: a leaf with a text, or a branch with elements
- `Xml.document`: the text of a document that holds a row of elements
-/

namespace ShardManifest.Xml

/-- The root element of every document. -/
def rootElement : String := "yandex"

inductive Call where
  | opening (tag : String)
  | closing (tag : String)
  /-- Write an element that holds a text. -/
  | element (tag text : String)
deriving DecidableEq, Repr

structure Writer where
  written : String
  depth : Nat
deriving DecidableEq, Repr

namespace Writer

/-- The blanks before an element inside `depth` others. -/
def indent (depth : Nat) : String :=
  String.ofList (List.replicate (4 * depth) ' ')

def call (w : Writer) : Call → Writer
  | .opening tag => ⟨w.written ++ (indent w.depth ++ "<" ++ tag ++ ">\n"), w.depth + 1⟩
  | .closing tag =>
    let depth := w.depth - 1
    ⟨w.written ++ (indent depth ++ "</" ++ tag ++ ">\n"), depth⟩
  | .element tag text =>
    ⟨w.written ++ (indent w.depth ++ "<" ++ tag ++ ">" ++ escape text ++ "</" ++ tag ++ ">\n"),
      w.depth⟩

def run (w : Writer) (calls : List Call) : Writer :=
  calls.foldl call w

/-- A document whose root is open. -/
def document : Writer :=
  (⟨"", 0⟩ : Writer).call (.opening rootElement)

/-- Closes the root; the result is the whole text. -/
def finish (w : Writer) : String :=
  (w.call (.closing rootElement)).written

end Writer

inductive Element where
  | leaf (tag text : String)
  | branch (tag : String) (children : List Element)
deriving Repr

mutual

/-- The calls that write an element. -/
def Element.calls : Element → List Call
  | .leaf tag text => [.element tag text]
  | .branch tag children => .opening tag :: (Element.callsOfAll children ++ [.closing tag])

/-- The calls that write a row of elements. -/
def Element.callsOfAll : List Element → List Call
  | [] => []
  | e :: rest => e.calls ++ Element.callsOfAll rest

end

/-- The text of a document that holds a row of elements. -/
def document (elements : List Element) : String :=
  (Writer.document.run (Element.callsOfAll elements)).finish

end ShardManifest.Xml
