import ShardManifest.Proofs.Xml.CharacterData
import ShardManifest.Proofs.Xml.Layout

/-!
# What a text spells

A text spells a row of elements if it consists of their open tags, of what they hold, and of their
close tags, with nothing but white space between them. An element holds either character data or a
row of elements. There are no attributes, comments or declarations, and every tag is an element
name.

A branch without elements is written on two lines. What stands between its tags is white space, so
that it reads like a leaf with a blank text; all other elements read as they were written.

## Main definitions

- `Xml.Spells`: the row of elements that a text spells
- `Xml.Element.Named`: all tags of an element are element names
- `Xml.Element.asRead`: how an element that was written at a depth is read

## Main results

- `Xml.spells_layoutOfAll`: a row whose tags are element names is spelled by its layout
- `Xml.spells_document`: a document spells its root
-/

namespace ShardManifest.Xml

def openTag (tag : String) : List Char := '<' :: (tag.toList ++ ['>'])

def closeTag (tag : String) : List Char := '<' :: '/' :: (tag.toList ++ ['>'])

/-- A text spells a row of elements. -/
inductive Spells : List Element → List Char → Prop
  /-- White space spells the empty row. -/
  | nil {blank : List Char} (hblank : blank.all isBlank = true) : Spells [] blank
  /-- An element that holds character data. -/
  | leaf {blank data rest : List Char} {tag : String} {elements : List Element}
      (hblank : blank.all isBlank = true) (htag : isElementName tag = true)
      (hdata : isCharacterData data = true) (hrest : Spells elements rest) :
      Spells (.leaf tag (unescape (.ofList data)) :: elements)
        (blank ++ (openTag tag ++ (data ++ (closeTag tag ++ rest))))
  /-- An element that holds elements. -/
  | branch {blank inner rest : List Char} {tag : String} {children elements : List Element}
      (hblank : blank.all isBlank = true) (htag : isElementName tag = true)
      (hinner : Spells children inner) (hchildren : children ≠ []) (hrest : Spells elements rest) :
      Spells (.branch tag children :: elements)
        (blank ++ (openTag tag ++ (inner ++ (closeTag tag ++ rest))))

namespace Spells

variable {blank text : List Char} {elements : List Element}

theorem blank_append (hblank : blank.all isBlank = true) (h : Spells elements text) :
    Spells elements (blank ++ text) := by
  have hall : ∀ {more : List Char}, more.all isBlank = true →
      (blank ++ more).all isBlank = true := by
    intro more hmore
    rw [List.all_append, hblank, hmore]
    rfl
  cases h with
  | nil hmore => exact nil (hall hmore)
  | leaf hmore htag hdata hrest =>
    rw [← List.append_assoc]
    exact leaf (hall hmore) htag hdata hrest
  | branch hmore htag hinner hchildren hrest =>
    rw [← List.append_assoc]
    exact branch (hall hmore) htag hinner hchildren hrest

theorem append_blank (hblank : blank.all isBlank = true) (h : Spells elements text) :
    Spells elements (text ++ blank) := by
  induction h with
  | nil hmore =>
    refine nil ?_
    rw [List.all_append, hmore, hblank]
    rfl
  | leaf hmore htag hdata _ ih =>
    simp only [List.append_assoc]
    exact leaf hmore htag hdata ih
  | branch hmore htag hinner hchildren _ _ ih =>
    simp only [List.append_assoc]
    exact branch hmore htag hinner hchildren ih

end Spells

/-! ### Layouts -/

/-- All tags of an element are element names. -/
inductive Element.Named : Element → Prop
  | leaf {tag text : String} (htag : isElementName tag = true) : Named (.leaf tag text)
  | branch {tag : String} {children : List Element} (htag : isElementName tag = true)
      (hchildren : ∀ e ∈ children, e.Named) : Named (.branch tag children)

mutual

/-- How an element that was written at a depth is read. -/
def Element.asRead (depth : Nat) : Element → Element
  | .leaf tag text => .leaf tag text
  | .branch tag children =>
    if children.isEmpty then .leaf tag ("\n" ++ Writer.indent depth)
    else .branch tag (asReadAll (depth + 1) children)

/-- How a row that was written at a depth is read. -/
def asReadAll (depth : Nat) : List Element → List Element
  | [] => []
  | e :: rest => e.asRead depth :: asReadAll depth rest

end

theorem asReadAll_eq_map (depth : Nat) (elements : List Element) :
    asReadAll depth elements = elements.map (Element.asRead depth) := by
  induction elements with
  | nil => rfl
  | cons e rest ih => rw [asReadAll, ih, List.map_cons]

theorem Element.tag_asRead (depth : Nat) (e : Element) : (e.asRead depth).tag = e.tag := by
  cases e with
  | leaf => rfl
  | branch tag children =>
    rw [asRead]
    split <;> rfl

/-- What an element holds is read one level deeper. -/
theorem Element.children_asRead (depth : Nat) (e : Element) :
    (e.asRead depth).children = e.children.map (Element.asRead (depth + 1)) := by
  cases e with
  | leaf => rfl
  | branch tag children =>
    rw [asRead]
    split
    next hnone =>
      rw [List.isEmpty_iff.1 hnone]
      rfl
    next => exact asReadAll_eq_map (depth + 1) children

/-- A branch that holds something is read as it is written if what it holds is. -/
theorem Element.asRead_branch {tag : String} {children : List Element} (hne : children ≠ [])
    (h : ∀ e ∈ children, ∀ depth, e.asRead depth = e) (depth : Nat) :
    (branch tag children).asRead depth = branch tag children := by
  have hchildren : children.map (Element.asRead (depth + 1)) = children := by
    rw [List.map_congr_left (g := id) fun e he => h e he (depth + 1), List.map_id]
  rw [asRead, if_neg (by simpa using hne), asReadAll_eq_map, hchildren]

theorem isBlank_indent (depth : Nat) : (Writer.indent depth).toList.all isBlank = true := by
  rw [Writer.indent, String.toList_ofList, List.all_replicate]
  split <;> rfl

/-- What stands between the tags of a branch without elements. -/
theorem isBlank_gap (depth : Nat) : ("\n" ++ Writer.indent depth).toList.all isBlank = true := by
  rw [String.toList_append, List.all_append, isBlank_indent]
  rfl

theorem toList_layoutOfAll_leaf (depth : Nat) (tag text : String) (rest : List Element) :
    (layoutOfAll depth (.leaf tag text :: rest)).toList =
      (Writer.indent depth).toList ++ (openTag tag ++ ((escape text).toList ++
        (closeTag tag ++ (['\n'] ++ (layoutOfAll depth rest).toList)))) := by
  simp [layoutOfAll, Element.layout, openTag, closeTag]

theorem toList_layoutOfAll_branch (depth : Nat) (tag : String) (children rest : List Element) :
    (layoutOfAll depth (.branch tag children :: rest)).toList =
      (Writer.indent depth).toList ++ (openTag tag ++
        ((['\n'] ++ ((layoutOfAll (depth + 1) children).toList ++ (Writer.indent depth).toList)) ++
          (closeTag tag ++ (['\n'] ++ (layoutOfAll depth rest).toList)))) := by
  simp [layoutOfAll, Element.layout, openTag, closeTag]

/-- A row whose tags are element names is spelled by its layout. -/
theorem spells_layoutOfAll (depth : Nat) {elements : List Element}
    (h : ∀ e ∈ elements, e.Named) :
    Spells (asReadAll depth elements) (layoutOfAll depth elements).toList := by
  have hline : ['\n'].all isBlank = true := rfl
  induction elements using rowInduction generalizing depth with
  | nil => exact .nil rfl
  | leaf tag text rest ih =>
    obtain ⟨hleaf, hrest⟩ := List.forall_mem_cons.1 h
    obtain ⟨htag⟩ | _ := hleaf
    have hspells := Spells.leaf (isBlank_indent depth) htag (isCharacterData_escape text)
      ((ih depth hrest).blank_append hline)
    rw [String.ofList_toList, unescape_escape] at hspells
    rw [toList_layoutOfAll_leaf]
    exact hspells
  | branch tag children rest ihchildren ihrest =>
    obtain ⟨hbranch, hrest⟩ := List.forall_mem_cons.1 h
    obtain _ | ⟨htag, hinner⟩ := hbranch
    have hspellsrest := (ihrest depth hrest).blank_append hline
    rw [toList_layoutOfAll_branch]
    cases children with
    | nil =>
      -- only white space between the two tags: this is how a leaf with a blank text is spelled
      have hblank := isBlank_gap depth
      have hspells := Spells.leaf (isBlank_indent depth) htag (isCharacterData_of_blank hblank)
        hspellsrest
      rw [String.ofList_toList, unescape_of_blank hblank, String.toList_append] at hspells
      exact hspells
    | cons e children =>
      have hspellsinner := ((ihchildren (depth + 1) hinner).append_blank
        (isBlank_indent depth)).blank_append hline
      exact .branch (isBlank_indent depth) htag hspellsinner (List.cons_ne_nil _ _) hspellsrest

/-- A document spells its root. -/
theorem spells_document {elements : List Element} (h : ∀ e ∈ elements, e.Named) :
    Spells [(Element.branch rootElement elements).asRead 0] (document elements).toList := by
  have hroot : Element.Named (.branch rootElement elements) := .branch (by decide) h
  rw [document_eq_layout, ← layoutOfAll_singleton]
  exact spells_layoutOfAll 0 (List.forall_mem_singleton.2 hroot)

end ShardManifest.Xml
