import ShardManifest.Xml.Writer

/-!
# How a row of elements is laid out

An element is written at its depth: each of its lines begins with four blanks for each element
around it. The calls that write a row of elements append this layout to what is written and come
back to the depth they began at, so a document is the layout of its root.

## Main definitions

- `Xml.Element.layout`, `Xml.layoutOfAll`: elements at a depth, line by line

## Main results

- `Xml.rowInduction`: induction over a row and, inside it, the rows of its branches
- `Xml.layout_infix_layout_branch`: what is in a branch is laid out in its layout
- `Xml.Writer.run_callsOfAll`: the calls of a row append its layout
- `Xml.document_eq_layout`: a document is the layout of its root
-/

namespace ShardManifest.Xml

/-- Induction over rows of elements: the elements inside a branch are a row of their own. -/
@[elab_as_elim]
theorem rowInduction {motive : List Element → Prop} (nil : motive [])
    (leaf : ∀ tag text rest, motive rest → motive (.leaf tag text :: rest))
    (branch : ∀ tag children rest, motive children → motive rest →
      motive (.branch tag children :: rest)) :
    ∀ elements, motive elements
  | [] => nil
  | .leaf tag text :: rest => leaf tag text rest (rowInduction nil leaf branch rest)
  | .branch tag children :: rest =>
    branch tag children rest (rowInduction nil leaf branch children)
      (rowInduction nil leaf branch rest)

namespace Element

def tag : Element → String
  | leaf tag _ => tag
  | branch tag _ => tag

def children : Element → List Element
  | leaf _ _ => []
  | branch _ children => children

end Element

mutual

/-- An element inside `depth` others, line by line. -/
def Element.layout (depth : Nat) : Element → String
  | .leaf tag text =>
    Writer.indent depth ++ "<" ++ tag ++ ">" ++ escape text ++ "</" ++ tag ++ ">\n"
  | .branch tag children =>
    Writer.indent depth ++ "<" ++ tag ++ ">\n" ++ layoutOfAll (depth + 1) children
      ++ Writer.indent depth ++ "</" ++ tag ++ ">\n"

/-- A row of elements inside `depth` others. -/
def layoutOfAll (depth : Nat) : List Element → String
  | [] => ""
  | e :: rest => e.layout depth ++ layoutOfAll depth rest

end

theorem layoutOfAll_singleton (depth : Nat) (e : Element) :
    layoutOfAll depth [e] = e.layout depth := by
  rw [layoutOfAll, layoutOfAll, String.append_empty]

theorem layout_infix_layoutOfAll {e : Element} {elements : List Element} (h : e ∈ elements)
    (depth : Nat) : (e.layout depth).toList <:+: (layoutOfAll depth elements).toList := by
  induction elements with
  | nil => cases h
  | cons first rest ih =>
    rw [layoutOfAll, String.toList_append]
    rcases List.mem_cons.1 h with rfl | h
    · exact (List.prefix_append _ _).isInfix
    · exact (ih h).trans (List.suffix_append _ _).isInfix

/-- The layout of a branch has in it those of its elements, one level deeper. -/
theorem layout_infix_layout_branch {tag : String} {e : Element} {children : List Element}
    (h : e ∈ children) (depth : Nat) :
    (e.layout (depth + 1)).toList <:+: ((Element.branch tag children).layout depth).toList := by
  refine (layout_infix_layoutOfAll h (depth + 1)).trans
    ⟨(Writer.indent depth ++ "<" ++ tag ++ ">\n").toList,
      (Writer.indent depth ++ "</" ++ tag ++ ">\n").toList, ?_⟩
  rw [Element.layout]
  simp only [String.toList_append, List.append_assoc]

theorem Writer.run_append (w : Writer) (calls more : List Call) :
    w.run (calls ++ more) = (w.run calls).run more :=
  List.foldl_append

/-- The calls of a row append its layout at the depth they began at, and come back to it. -/
theorem Writer.run_callsOfAll (w : Writer) (elements : List Element) :
    w.run (Element.callsOfAll elements) =
      ⟨w.written ++ layoutOfAll w.depth elements, w.depth⟩ := by
  induction elements using rowInduction generalizing w with
  | nil => simp [Element.callsOfAll, layoutOfAll, run]
  | leaf tag text rest ih =>
    rw [Element.callsOfAll, Element.calls, run_append, ih]
    simp [run, call, layoutOfAll, Element.layout, String.append_assoc]
  | branch tag children rest ihchildren ihrest =>
    have hopening : w.run [.opening tag] =
        ⟨w.written ++ (indent w.depth ++ "<" ++ tag ++ ">\n"), w.depth + 1⟩ := rfl
    rw [Element.callsOfAll, Element.calls, run_append, ihrest, ← List.singleton_append, run_append,
      run_append, hopening, ihchildren]
    simp [run, call, layoutOfAll, Element.layout, String.append_assoc]

/-- A document is the layout of its root. -/
theorem document_eq_layout (elements : List Element) :
    document elements = (Element.branch rootElement elements).layout 0 := by
  rw [document, Writer.finish, Writer.run_callsOfAll]
  simp [Writer.document, Writer.call, Element.layout, String.append_assoc]

end ShardManifest.Xml
