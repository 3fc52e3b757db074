import ShardManifest.Proofs.Xml.Reader

/-!
# Reading what was written

A writer is told what to write call by call and counts the elements that are open. Told a row of
elements of which every branch holds something, it writes a document that is read as just that row
inside the root, whatever the texts of the leaves are. Nothing but a leaf's text stands between two
tags of one line, and in front of each line stand four blanks for each element around it.

## Main definitions

- `Xml.Element.Proper`: tags are element names, and branches hold elements
- `Xml.Element.enclosed?`: the elements that an element holds, if it holds nothing else
- `Xml.LineStart`: a new line has begun, with the blanks for a number of elements
- `Xml.TagAt`: a tag stands where it belongs
- `Xml.TagsFrom`: all tags do, in a text that is read from some point on

## Main results

- `Xml.Element.Proper.asRead_eq`: proper elements are read as they are written
- `Xml.tagsFrom_layoutOfAll`: the tags of a row stand where they belong
- `Xml.document_roundTrip`: a document is read as the row of elements that was written, line by line
-/

namespace ShardManifest.Xml

namespace Element

/-- All tags of an element are element names, and its branches hold elements. -/
inductive Proper : Element → Prop
  | leaf {tag text : String} (htag : isElementName tag = true) : Proper (.leaf tag text)
  | branch {tag : String} {children : List Element} (htag : isElementName tag = true)
      (hne : children ≠ []) (hchildren : ∀ e ∈ children, e.Proper) :
      Proper (.branch tag children)

theorem Proper.named {e : Element} (h : e.Proper) : e.Named := by
  induction h with
  | leaf htag => exact .leaf htag
  | branch htag _ _ ih => exact .branch htag ih

/-- A proper element is read as it is written. -/
theorem Proper.asRead_eq {e : Element} (h : e.Proper) (depth : Nat) : e.asRead depth = e := by
  induction h generalizing depth with
  | leaf => rfl
  | branch _ hne _ ih => exact asRead_branch hne ih depth

/-- The elements that an element holds, if it holds nothing else but white space. -/
def enclosed? : Element → Option (List Element)
  | leaf _ text => if text.toList.all isBlank then some [] else none
  | branch _ children => some children

/-- Around proper elements a branch is read as what holds just these. -/
theorem enclosed?_asRead_branch {tag : String} {children : List Element}
    (h : ∀ e ∈ children, e.Proper) (depth : Nat) :
    ((branch tag children).asRead depth).enclosed? = some children := by
  by_cases hne : children = []
  · subst hne
    exact if_pos (isBlank_gap depth)
  · rw [asRead_branch hne fun e he => (h e he).asRead_eq]
    rfl

end Element

theorem asReadAll_of_proper {elements : List Element} (h : ∀ e ∈ elements, e.Proper)
    (depth : Nat) : asReadAll depth elements = elements := by
  rw [asReadAll_eq_map, List.map_congr_left (g := id) fun e he => (h e he).asRead_eq depth,
    List.map_id]

/-! ### Lines -/

/-- What was read so far ends in a line break, or nothing was. -/
def NewLine (before : List Char) : Prop := before = [] ∨ before.getLast? = some '\n'

/-- What was read so far ends in a new line that holds the blanks for `depth` elements around it. -/
def LineStart (depth : Nat) (before : List Char) : Prop :=
  ∃ lines, NewLine lines ∧ before = lines ++ List.replicate (4 * depth) ' '

theorem newLine_nil : NewLine [] := .inl rfl

theorem newLine_append_feed (before : List Char) : NewLine (before ++ ['\n']) :=
  .inr List.getLast?_concat

theorem NewLine.append {before more : List Char} (h : NewLine before) (hmore : NewLine more) :
    NewLine (before ++ more) := by
  rcases hmore with rfl | hlast
  · rwa [List.append_nil]
  · refine .inr ?_
    rw [List.getLast?_append, hlast]
    rfl

theorem NewLine.lineStart {before : List Char} (h : NewLine before) (depth : Nat) :
    LineStart depth (before ++ (Writer.indent depth).toList) :=
  ⟨before, h, by rw [Writer.indent, String.toList_ofList]⟩

/-- Every element ends its line. -/
theorem newLine_layout (depth : Nat) (e : Element) : NewLine (e.layout depth).toList := by
  have hend : ">\n".toList = ['>'] ++ ['\n'] := rfl
  cases e <;>
    rw [Element.layout, String.toList_append, hend, ← List.append_assoc] <;>
    exact newLine_append_feed _

theorem newLine_layoutOfAll (depth : Nat) (elements : List Element) :
    NewLine (layoutOfAll depth elements).toList := by
  induction elements with
  | nil => exact newLine_nil
  | cons e rest ih =>
    rw [layoutOfAll, String.toList_append]
    exact (newLine_layout depth e).append ih

/-! ### Tags -/

/-- Behind what was read so far stands a tag, inside the elements that are open: `top` and those in
`outer`, of which the last is the text as a whole. The tags of a branch have lines of their own, and
so does a leaf: it begins and ends its line. Each of these lines begins with four blanks for each
element around the one whose tag it is. These are as many as `outer` has frames if the tag opens
another element, and one less if it closes `top`. -/
inductive TagAt (top : Frame) (outer : List Frame) (before : List Char) : List Char → Prop
  | opensLeaf {tag : String} {data rest : List Char} (htag : isElementName tag = true)
      (hdata : '<' ∉ data) (hline : LineStart outer.length before) :
      TagAt top outer before (openTag tag ++ (data ++ (closeTag tag ++ '\n' :: rest)))
  | closesLeaf {rest : List Char} (hleaf : top.children = []) (hinside : 1 < outer.length) :
      TagAt top outer before (closeTag top.tag ++ '\n' :: rest)
  | opensBranch {tag : String} {rest : List Char} (htag : isElementName tag = true)
      (hline : LineStart outer.length before) :
      TagAt top outer before (openTag tag ++ '\n' :: rest)
  /-- The root is a branch even if it holds nothing. -/
  | closesBranch {rest : List Char} (hbranch : top.children ≠ [] ∨ outer.length = 1)
      (hline : LineStart (outer.length - 1) before) :
      TagAt top outer before (closeTag top.tag ++ '\n' :: rest)

/-- From some point on all tags of a text stand where they belong; `rest` is what follows the
text. -/
def TagsFrom (top : Frame) (outer : List Frame) (before text rest : List Char) : Prop :=
  ∀ read unread, text = read ++ '<' :: unread → ∃ top' outer',
    Reading.run ⟨none, top, outer⟩ read = some ⟨none, top', outer'⟩ ∧
      TagAt top' outer' (before ++ read) ('<' :: (unread ++ rest))

namespace TagsFrom

variable {top top' f : Frame} {outer outer' : List Frame} {before text more rest : List Char}
  {tag : String} {e : Element}

theorem nil : TagsFrom top outer before [] rest := by
  intro read unread hsplit
  simp at hsplit

/-- Reading goes on behind a text. -/
theorem append (h : TagsFrom top outer before text (more ++ rest))
    (hrun : Reading.run ⟨none, top, outer⟩ text = some ⟨none, top', outer'⟩)
    (hmore : TagsFrom top' outer' (before ++ text) more rest) :
    TagsFrom top outer before (text ++ more) rest := by
  have hbehind : ∀ inside unread, more = inside ++ '<' :: unread → ∃ top'' outer'',
      Reading.run ⟨none, top, outer⟩ (text ++ inside) = some ⟨none, top'', outer''⟩ ∧
        TagAt top'' outer'' (before ++ (text ++ inside)) ('<' :: (unread ++ rest)) := by
    intro inside unread hinside
    obtain ⟨top'', outer'', hread, hat⟩ := hmore inside unread hinside
    refine ⟨top'', outer'', ?_, by rwa [← List.append_assoc]⟩
    rw [Reading.run_append, hrun, Option.bind_some, hread]
  intro read unread hsplit
  rcases List.append_eq_append_iff.1 hsplit with ⟨inside, rfl, hinside⟩ | ⟨inside, htext, hinside⟩
  · exact hbehind inside unread hinside
  · cases inside with
    | nil =>
      have hread := hbehind [] unread hinside.symm
      rwa [htext, List.append_nil, List.append_nil] at hread
    | cons c inside =>
      obtain ⟨rfl, rfl⟩ := List.cons.inj hinside
      obtain ⟨top'', outer'', hread, hat⟩ := h read inside htext
      exact ⟨top'', outer'', hread, by simpa using hat⟩

/-- Data has no tags in it. -/
theorem data {data : List Char} (hdata : '<' ∉ data)
    (hmore : TagsFrom { top with data := top.data ++ data } outer (before ++ data) more rest) :
    TagsFrom top outer before (data ++ more) rest := by
  refine append (fun read unread hsplit => ?_) (Reading.run_data hdata) hmore
  exact absurd (by simp [hsplit]) hdata

/-- A tag has no other in it. -/
theorem single {name : List Char} (hname : '<' ∉ name)
    (hat : TagAt top outer before ('<' :: (name ++ rest))) :
    TagsFrom top outer before ('<' :: name) rest := by
  intro read unread hsplit
  cases read with
  | nil =>
    obtain ⟨-, rfl⟩ := List.cons.inj hsplit
    exact ⟨top, outer, rfl, by simpa using hat⟩
  | cons c read =>
    have hmem : '<' ∈ name := by simp [(List.cons.inj hsplit).2]
    exact absurd hmem hname

theorem opening (htag : isElementName tag = true)
    (hat : TagAt top outer before (openTag tag ++ (more ++ rest)))
    (hmore : TagsFrom ⟨tag, [], []⟩ (top :: outer) (before ++ openTag tag) more rest) :
    TagsFrom top outer before (openTag tag ++ more) rest := by
  have hname : '<' ∉ tag.toList ++ ['>'] := by
    simpa using not_mem_of_isElementName htag (by decide)
  exact append (single hname (by simpa [openTag] using hat)) (Reading.run_openTag htag) hmore

theorem closing (htag : isElementName top.tag = true) (he : top.element? = some e)
    (hat : TagAt top (f :: outer) before (closeTag top.tag ++ (more ++ rest)))
    (hmore : TagsFrom (f.addElement e) outer (before ++ closeTag top.tag) more rest) :
    TagsFrom top (f :: outer) before (closeTag top.tag ++ more) rest := by
  have hname : '<' ∉ '/' :: (top.tag.toList ++ ['>']) := by
    simpa using not_mem_of_isElementName htag (by decide)
  have hrun : Reading.run ⟨none, top, f :: outer⟩ (closeTag top.tag) =
      some ⟨none, f.addElement e, outer⟩ := by rw [Reading.run_closeTag htag, he, Option.map_some]
  exact append (single hname (by simpa [closeTag] using hat)) hrun hmore

end TagsFrom

/-- An element that holds nothing but elements and white space can be closed. -/
theorem Frame.exists_element?_of_blank {f : Frame} (h : f.data.all isBlank = true) :
    ∃ e, f.element? = some e := by
  rw [Frame.element?, if_pos (isCharacterData_of_blank h), if_pos h]
  split <;> exact ⟨_, rfl⟩

theorem lt_not_mem_indent (depth : Nat) : '<' ∉ (Writer.indent depth).toList :=
  Reading.not_mem_of_isBlank (isBlank_indent depth)

section Rows

variable {top : Frame} {outer : List Frame} {before more rest : List Char} {tag : String}

/-- The tags of a leaf, and those of what follows it. -/
theorem TagsFrom.leaf (htag : isElementName tag = true) (text : String) (hbefore : NewLine before)
    (hinside : 0 < outer.length)
    (hmore : ∀ top before, NewLine before → TagsFrom top outer before more rest) :
    TagsFrom top outer before ((Writer.indent outer.length).toList ++
      (openTag tag ++ ((escape text).toList ++ (closeTag tag ++ (['\n'] ++ more))))) rest := by
  have hdata : '<' ∉ (escape text).toList := (isCharacterData_iff.1 (isCharacterData_escape text)).1
  have hline := hbefore.lineStart outer.length
  have he : Frame.element? ⟨tag, (escape text).toList, []⟩ = some (.leaf tag text) := by
    simp [Frame.element?, isCharacterData_escape, unescape_escape]
  refine .data (lt_not_mem_indent _) (.opening htag ?_ (.data hdata (.closing htag he ?_ ?_)))
  · simpa using TagAt.opensLeaf htag hdata hline
  · exact .closesLeaf rfl (by simpa using hinside)
  · exact .data (by decide) (hmore _ _ (newLine_append_feed _))

/-- The tags of a branch, those of what it holds, and those of what follows it. -/
theorem TagsFrom.branch {children : List Element} (htag : isElementName tag = true)
    (hproper : ∀ e ∈ children, e.Proper) (hbranch : children ≠ [] ∨ outer.length = 0)
    (hbefore : NewLine before)
    (hchildren : ∀ top outer before rest, 0 < List.length outer → NewLine before →
      TagsFrom top outer before (layoutOfAll outer.length children).toList rest)
    (hmore : ∀ top before, NewLine before → TagsFrom top outer before more rest) :
    TagsFrom top outer before ((Writer.indent outer.length).toList ++ (openTag tag ++
      ((['\n'] ++ ((layoutOfAll (outer.length + 1) children).toList ++
        (Writer.indent outer.length).toList)) ++ (closeTag tag ++ (['\n'] ++ more))))) rest := by
  simp only [List.append_assoc]
  refine .data (lt_not_mem_indent _) (.opening htag ?_ (.data (by decide) ?_))
  · exact .opensBranch htag (hbefore.lineStart outer.length)
  have hnamed := spells_layoutOfAll (outer.length + 1) fun e he => (hproper e he).named
  rw [asReadAll_of_proper hproper] at hnamed
  obtain ⟨blank, hblank, hrun⟩ := Reading.run_spells hnamed _ _
  refine .append (hchildren _ _ _ _ (Nat.succ_pos _) (newLine_append_feed _)) hrun ?_
  -- between the tags there are the lines of the children and white space
  have hblanks : (([] ++ ['\n'] ++ blank) ++ (Writer.indent outer.length).toList).all isBlank =
      true := by
    simp [List.all_append, hblank, isBlank_indent, isBlank]
  obtain ⟨e, he⟩ := Frame.exists_element?_of_blank
    (f := ⟨tag, ([] ++ ['\n'] ++ blank) ++ (Writer.indent outer.length).toList, [] ++ children⟩)
    hblanks
  have hline := (newLine_append_feed ((before ++ (Writer.indent outer.length).toList) ++
    openTag tag)).append (newLine_layoutOfAll (outer.length + 1) children)
  refine .data (lt_not_mem_indent _) (.closing htag he ?_ ?_)
  · exact .closesBranch (by simpa using hbranch) (hline.lineStart outer.length)
  · exact .data (by decide) (hmore _ _ (newLine_append_feed _))

/-- The tags of a row of elements inside others stand where they belong. -/
theorem tagsFrom_layoutOfAll {elements : List Element} (h : ∀ e ∈ elements, e.Proper)
    (hinside : 0 < outer.length) (hbefore : NewLine before) :
    TagsFrom top outer before (layoutOfAll outer.length elements).toList rest := by
  induction elements using rowInduction generalizing top outer before rest with
  | nil => exact .nil
  | leaf tag text more ih =>
    obtain ⟨hleaf, hmore⟩ := List.forall_mem_cons.1 h
    obtain ⟨htag⟩ | _ := hleaf
    rw [toList_layoutOfAll_leaf]
    exact .leaf htag text hbefore hinside fun top before => ih hmore hinside
  | branch tag children more ihchildren ihmore =>
    obtain ⟨hbranch, hmore⟩ := List.forall_mem_cons.1 h
    obtain _ | ⟨htag, hne, hchildren⟩ := hbranch
    rw [toList_layoutOfAll_branch]
    exact .branch htag hchildren (.inl hne) hbefore
      (fun top outer before rest => ihchildren hchildren) fun top before => ihmore hmore hinside

end Rows

/-! ### Documents -/

/-- A row of elements with element names for tags, in which every branch holds something, is written
call by call as a document that is read as the root around just this row. Every tag in it stands
where it belongs: the tags of a branch, and the open tag of a leaf, begin a line behind four blanks
for each element around it. -/
theorem document_roundTrip {elements : List Element} (h : ∀ e ∈ elements, e.Proper) :
    (∃ root, read? (Writer.document.run (Element.callsOfAll elements)).finish = some root ∧
      root.tag = "yandex" ∧ root.enclosed? = some elements) ∧
    ∀ before after, (Writer.document.run (Element.callsOfAll elements)).finish.toList =
      before ++ '<' :: after → ∃ top outer,
        Reading.start.run before = some ⟨none, top, outer⟩ ∧
          TagAt top outer before ('<' :: after) := by
  have hdocument : (Writer.document.run (Element.callsOfAll elements)).finish =
      layoutOfAll 0 [.branch rootElement elements] := by
    rw [layoutOfAll_singleton, ← document_eq_layout, document]
  refine ⟨⟨_, ?read, Element.tag_asRead 0 _, Element.enclosed?_asRead_branch h 0⟩, ?tags⟩
  case read => exact read?_eq_some_iff.2 (spells_document fun e he => (h e he).named)
  case tags =>
    intro before after hsplit
    have htags : TagsFrom Reading.start.top [] []
        (layoutOfAll 0 [.branch rootElement elements]).toList [] := by
      rw [toList_layoutOfAll_branch]
      exact .branch (by decide) h (.inr rfl) newLine_nil
        (fun _ _ _ _ => tagsFrom_layoutOfAll h) fun _ _ _ => .nil
    obtain ⟨top, outer, hread, hat⟩ := htags before after (by rw [← hsplit, hdocument])
    exact ⟨top, outer, hread, by simpa using hat⟩

/-- Texts that are empty, blank, of several lines or look like tags, and branches in branches. -/
def lookalikes : List Element :=
  [.leaf "a" "", .branch "b" [.leaf "c" " \n ", .branch "_d.e-1" [.leaf "c" "</c>\n<d>&amp;lt;"],
    .leaf "b" "\t"], .leaf "a" "\n    <b>'\""]

theorem document_roundTrip_lookalikes :
    (∀ e ∈ lookalikes, e.Proper) ∧
    (∃ root, read? (Writer.document.run (Element.callsOfAll lookalikes)).finish = some root ∧
      root.tag = "yandex" ∧ root.enclosed? = some lookalikes) ∧
    ∀ before after, (Writer.document.run (Element.callsOfAll lookalikes)).finish.toList =
      before ++ '<' :: after → ∃ top outer,
        Reading.start.run before = some ⟨none, top, outer⟩ ∧
          TagAt top outer before ('<' :: after) := by
  have hproper : ∀ e ∈ lookalikes, e.Proper := by
    simp only [lookalikes, List.forall_mem_cons]
    refine ⟨.leaf (by decide), .branch (by decide) (List.cons_ne_nil _ _) ?_,
      .leaf (by decide), by simp⟩
    simp only [List.forall_mem_cons]
    exact ⟨.leaf (by decide), .branch (by decide) (List.cons_ne_nil _ _)
      (List.forall_mem_singleton.2 (.leaf (by decide))), .leaf (by decide), by simp⟩
  exact ⟨hproper, document_roundTrip hproper⟩

end ShardManifest.Xml
